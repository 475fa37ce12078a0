import HexEditor.Window.Keyboard
import HexEditor.Window.Target

/-!
# The keyboard

One part of the window has the keyboard at a time. Tab hands it from part to part in the order in
which they are shown, an arrow key to the part that lies in its direction, unless the part keeps
those keys for itself. Escape takes it away.
-/

namespace HexEditor

inductive Heading
  | up
  | down
  | left
  | right
  | next
  | previous
deriving DecidableEq, Repr

structure KeyLock where
  tab : Bool := false
  horizontal : Bool := false
  vertical : Bool := false
deriving DecidableEq, Repr

def Heading.ofKey? (lock : KeyLock) (press : KeyPress) : Option Heading :=
  match press.key with
  | .up => if lock.vertical then none else some up
  | .down => if lock.vertical then none else some down
  | .left => if lock.horizontal then none else some left
  | .right => if lock.horizontal then none else some right
  | .tab => if lock.tab then none else some (if press.shift then previous else next)
  | _ => none

def Heading.advance (across down : Rat) : Heading → Rat
  | .up => -down
  | .down => down
  | .left => -across
  | .right => across
  | .next | .previous => 0

structure Focus where
  holder : Option Part := none
  lock : KeyLock := {}
  /-- The part that had the keyboard at the end of the last frame. -/
  before : Option Part := none
  /-- The part that gets it in the next frame. -/
  pending : Option Part := none
  /-- The next part that asks gets it. -/
  offered : Bool := false
  heading : Option Heading := none
  /-- The part that asked last. -/
  lastAsked : Option Part := none
  /-- The parts that have asked. -/
  known : List Part := []
deriving DecidableEq, Repr

namespace Focus

variable (f : Focus) (part : Part)

def request : Focus :=
  { f with holder := some part, lock := {} }

def surrender : Focus :=
  if f.holder = some part then { f with holder := none } else f

def gained : Bool :=
  f.before ≠ some part && f.holder = some part

def lost : Bool :=
  f.before = some part && f.holder ≠ some part

def keep (lock : KeyLock) : Focus :=
  if f.before = some part ∧ f.holder = some part then { f with lock } else f

def start (press : Option KeyPress) : Focus :=
  let given := (f.pending.map f.request).getD f
  let lock := if given.holder.isSome then given.lock else {}
  let escape := press.any (·.key = .escape)
  { given with
    before := f.holder
    pending := none
    heading := press.bind (Heading.ofKey? lock)
    holder := if escape then none else given.holder }

def ask : Focus :=
  let asked :=
    if f.offered ∧ f.before ≠ some part then { f.request part with offered := false }
    else if f.holder = some part then
      match f.heading with
      | some .next => { f with holder := none, offered := true, heading := none }
      | some .previous => { f with pending := f.lastAsked, heading := none }
      | _ => f
    else if f.heading = some .next ∧ f.holder = none ∧
      ¬ f.offered then { f.request part with heading := none }
    else f
  let known := if part ∈ f.known then f.known else f.known ++ [part]
  { asked with lastAsked := some part, known }

/-- How well a part lies in a direction, the less the better; only those within the eighth on either
side count. -/
def score? (heading : Heading) (current candidate : Region) : Option Rat :=
  let across := candidate.across.offset current.across
  let down := candidate.down.offset current.down
  let distanceSq := square across + square down
  let advanceSq := square (heading.advance across down)
  if 0 < heading.advance across down ∧ distanceSq ≤ 2 * advanceSq then
    some (distanceSq * square distanceSq / square advanceSq)
  else none

def inDirection (targets : List Target) (heading : Heading) : Option Part := do
  let holder ← f.holder
  let current ← targets.find? (·.part = holder)
  let rated := targets.filterMap fun t =>
    if t.part ≠ holder ∧ t.part ∈ f.known then
      (score? heading current.region t.region).map (·, t.part) else none
  let best ← rated.foldl
    (fun best t =>
      match best with
      | none => some t
      | some b => if t.1 < b.1 then some t else some b)
    none
  return best.2

/-- The end of a frame that has shown some parts. A part that is gone loses the keyboard. -/
def finish (targets : List Target) : Focus :=
  let shown := f.known.filter fun part => targets.any (·.part = part)
  let moved :=
    match f.heading.bind (f.inDirection targets) with
    | some part => f.request part
    | none => f
  let gone := moved.before = moved.holder ∧ moved.holder.any (¬ targets.any fun t => t.part = ·)
  { moved with known := shown, holder := if gone then none else moved.holder }

end Focus

end HexEditor
