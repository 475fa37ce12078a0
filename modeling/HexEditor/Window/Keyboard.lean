/-!
# The keyboard

The keys that mean something to the window, by the names that the host has for them, and what they
do in a field of one line. Shift keeps the other end of the selection in its place.
-/

namespace HexEditor

inductive Key
  | left
  | right
  | up
  | down
  | pageUp
  | pageDown
  | home
  | last
  | tab
  | g
  | enter
  | escape
  | plus
  | equals
  | minus
  | zero
  | backspace
  | delete
  | space
  | a
deriving DecidableEq, Repr

def Key.ofName? : String → Option Key
  | "Left" | "ArrowLeft" | "⏴" => some left
  | "Right" | "ArrowRight" | "⏵" => some right
  | "Up" | "ArrowUp" | "⏶" => some up
  | "Down" | "ArrowDown" | "⏷" => some down
  | "PageUp" => some pageUp
  | "PageDown" => some pageDown
  | "Home" => some home
  | "End" => some last
  | "Tab" => some tab
  | "G" | "g" => some g
  | "Enter" | "Return" => some enter
  | "Escape" | "Esc" => some escape
  | "Plus" | "+" => some plus
  | "Equals" | "=" => some equals
  | "Minus" | "-" | "−" => some minus
  | "0" | "Digit0" | "Numpad0" => some zero
  | "Backspace" => some backspace
  | "Delete" => some delete
  | "Space" | " " => some space
  | "A" | "a" => some a
  | _ => none

structure KeyPress where
  key : Key
  shift : Bool := false
  command : Bool := false
deriving DecidableEq, Repr

-- ---------------------------------------------------------------------------
-- A field of one line
-- ---------------------------------------------------------------------------

structure Caret where
  position : Nat := 0
  /-- The other end of the selection. -/
  anchor : Nat := 0
deriving DecidableEq, Repr

namespace Caret

variable (c : Caret)

def alone (position : Nat) : Caret :=
  ⟨position, position⟩

def first : Nat :=
  min c.position c.anchor

def last : Nat :=
  max c.position c.anchor

def within (length : Nat) : Caret :=
  ⟨min c.position length, min c.anchor length⟩

def moveTo (position : Nat) (extend : Bool) : Caret :=
  if extend then { c with position } else .alone position

def replace (text : String) (first last : Nat) (new : String) : String × Caret :=
  let letters := text.toList
  (String.ofList (letters.take first ++ new.toList ++ letters.drop last),
    .alone (first + new.length))

/-- A line break by itself is no text for a field of one line. -/
def insert (text new : String) : String × Caret :=
  if new = "" ∨ new = "\n" ∨ new = "\r" then (text, c) else replace text c.first c.last new

def press (text : String) (k : KeyPress) : String × Caret :=
  let selects := c.first < c.last
  let plain := !k.shift && !k.command
  match k.key with
  | .backspace => replace text (if selects then c.first else c.first - 1) c.last ""
  | .delete => replace text c.first (if selects then c.last else c.last + 1) ""
  | .left =>
    (text, if plain ∧ selects then .alone c.first else c.moveTo (c.position - 1) k.shift)
  | .right =>
    (text, if plain ∧ selects then .alone c.last
      else c.moveTo (min text.length (c.position + 1)) k.shift)
  | .up | .home => (text, c.moveTo 0 k.shift)
  | .down | .last => (text, c.moveTo text.length k.shift)
  | .a => (text, if k.command then ⟨text.length, 0⟩ else c)
  | _ => (text, c)

end Caret

end HexEditor
