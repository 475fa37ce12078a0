import HexEditor.Window.Frame

/-!
# Gestures

What a user does in one go, as a row of frames: a click on a menu, a turn of the wheel, a text typed
into the dialog. A gesture outside the grid ends with the pointer outside the window and the
keyboard nowhere.
-/

namespace HexEditor

inductive DialogAnswer
  | enter
  | go
  | cancel
  | escape
deriving DecidableEq, Repr

namespace DialogAnswer

def name : DialogAnswer → String
  | enter => "Enter"
  | go => "Go"
  | cancel => "Cancel"
  | escape => "Escape"

def ofName? (name : String) : Option DialogAnswer :=
  [enter, go, cancel, escape].find? (·.name = name)

def input : DialogAnswer → Input
  | enter => { key := some { key := .enter } }
  | go => { dialog := some .go }
  | cancel => { dialog := some .cancel }
  | escape => { key := some { key := .escape } }

end DialogAnswer

namespace Window

variable (w : Window) (now : Nat)

def idle : Window :=
  w.frame now {}

/-- A window of the given size, after the frames that lay it out. -/
def launch (session : Session) (folder : Folder) (width height : Nat) : Window :=
  (({ session, folder, width, height } : Window).idle now).idle now

def fromGrid (x y : Int) : Point :=
  ⟨single (w.gridCorner.x + x), single (w.gridCorner.y + y)⟩

def pointerMove (x y : Int) : Window :=
  w.frame now { pointer := some (.move (w.fromGrid x y)) }

def pointerOut : Window :=
  w.frame now { pointer := some .leave }

def buttonDown (x y : Int) : Window :=
  (w.pointerMove now x y).frame now { pointer := some (.press (w.fromGrid x y)) }

def buttonUp : Window :=
  w.frame now { pointer := w.pointer.seen.map .release }

def turnWheel (x y delta : Int) : Window :=
  (w.pointerMove now x y).frame now { wheel := delta }

def strike (key : KeyPress) : Window :=
  (w.frame now { key := some key }).idle now

def enterText (text : String) : Window :=
  w.frame now { text }

def dropFile (path : String) : Window :=
  w.frame now { drop := some path }

-- ---------------------------------------------------------------------------
-- Outside the grid
-- ---------------------------------------------------------------------------

/-- The pointer is taken off the window and the keyboard off its parts. -/
def aside : Window :=
  let focus := { w.focus with holder := none }
  ({ w with pointer := {}, touch := {}, openMenu := none, focus }.idle now).idle now

def clickOutside (input : Input) : Window :=
  ((w.aside now).frame now input).aside now

def chooseMenu (item : MenuItem) (picked : Option String) : Window :=
  let w := { w with placedMenus := item.menuIndex :: w.placedMenus }
  w.clickOutside now { menu := some (item, picked) }

def clickScrollBar (place : ScrollEnd) : Window :=
  w.clickOutside now { scrollBar := some place }

/-- What a use of the context menu brought: the texts of the menu and the text that was copied. -/
structure ContextOutcome where
  labels : List String
  copied : Option String
deriving DecidableEq, Repr

/-- Open the context menu at a point and choose an entry, or close it again. -/
def useContextMenu (x y : Int) (item : Option ContextItem) : ContextOutcome × Window :=
  let opened := (w.pointerMove now x y).frame now { secondaryClick := true }
  if opened.touch.hits.click = some .grid then
    let copied := item.bind fun item => (opened.session.chooseContext item).1
    (⟨opened.session.contextLabels, copied⟩, opened.clickOutside now { context := item })
  else (⟨[], none⟩, opened.aside now)

/-- Type into the go-to dialog and answer it. Only an empty field takes the text. Without a dialog
there is nothing to do. -/
def answerDialog (text : String) (answer : DialogAnswer) : Window :=
  if w.session.gotoOpen ∧ w.session.hasSource then
    ((({ w with focus := w.focus.surrender .field }.idle now).frame now { text }).frame now
      answer.input).aside now
  else w

-- ---------------------------------------------------------------------------
-- The stack panel
-- ---------------------------------------------------------------------------

/-- A point of the window, given from the corner of the stack panel. -/
def fromStack (x y : Int) : Point :=
  ⟨single (w.stackRegion.across.first + x), single (w.stackRegion.down.first + y)⟩

def pointToStack (x y : Int) : Window :=
  w.frame now { pointer := some (.move (w.fromStack x y)) }

def turnStackWheel (x y delta : Int) : Option Window :=
  if w.stackPainting.isSome then
    some (((w.pointToStack now x y).frame now { wheel := delta }).pointerOut now)
  else none

/-- Point at the stack panel, if it is there. The answer is the value shown for the point. -/
def pointAtStack (x y : Int) : Option (Option String × Window) :=
  if w.stackPainting.isSome then
    let w := (w.pointToStack now x y).idle now
    some (w.stackValue, w.pointerOut now)
  else none

end Window

end HexEditor
