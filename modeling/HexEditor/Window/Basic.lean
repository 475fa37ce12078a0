import HexEditor.View
import HexEditor.Window.Focus
import HexEditor.Window.Keyboard
import HexEditor.Window.Menu
import HexEditor.Window.Pointer
import HexEditor.Window.ScrollBar
import HexEditor.Window.Shape
import HexEditor.Window.Zoom

/-!
# The window

A window shows a session frame by frame: menu bar and status bar, the stack panel if it is switched
on, the grid of bytes with its scroll bar, and the go-to dialog over it. A frame takes what the user
did since the last one and leaves a painting behind. Where a part was in the last frame decides what
the pointer is on in this one.
-/

namespace HexEditor

inductive DialogButton
  | go
  | cancel
deriving DecidableEq, Repr

inductive ScrollEnd
  | top
  | bottom
deriving DecidableEq, Repr

structure Input where
  pointer : Option PointerEvent := none
  /-- Turn of the wheel; up is positive. -/
  wheel : Int := 0
  key : Option KeyPress := none
  text : String := ""
  /-- A file dropped on the window. -/
  drop : Option String := none
  /-- An item of the menu bar, with the answer of the file dialog. -/
  menu : Option (MenuItem × Option String) := none
  /-- A click with the secondary button. -/
  secondaryClick : Bool := false
  context : Option ContextItem := none
  scrollBar : Option ScrollEnd := none
  dialog : Option DialogButton := none

def Input.pressed (input : Input) (key : Key) : Bool :=
  input.key.any (·.key = key)

structure Window where
  session : Session
  folder : Folder := {}
  width : Nat
  height : Nat
  /-- Zoom of the last frame. -/
  zoom : Zoom := .actual
  /-- Zoom of the frame before it, for which the lengths of the window were given. -/
  oldZoom : Zoom := .actual
  /-- Zoom of the next frame. -/
  nextZoom : Zoom := .actual
  pointer : Pointer := {}
  touch : Touch := {}
  focus : Focus := {}
  /-- Parts of the last frame, those behind first. -/
  targets : List Target := []
  /-- Width of the stack panel. -/
  stackWidth : Rat := 260
  /-- Top left corner of the grid. -/
  gridCorner : Point := ⟨8, 30⟩
  /-- The menu that is open. -/
  openMenu : Option Nat := none
  /-- Menus that have been open; the first frame of one only finds its place. -/
  placedMenus : List Nat := []
  /-- The go-to dialog has found its place. -/
  dialogPlaced : Bool := false
  /-- The go-to dialog had a line for an error when it was last shown. -/
  errorShown : Bool := false
  /-- Caret of the dialog's field, once it has had one. -/
  caret : Option Caret := none
  painting : Option (List Shape) := none
  stackPainting : Option (List Shape) := none
  /-- Value that is shown for the entry of the stack under the pointer. -/
  stackValue : Option String := none
  /-- Texts outside the grid and the stack panel. -/
  texts : List String := []
  /-- Texts of an open menu. -/
  overlayTexts : List String := []

namespace Window

def barHeight : Rat := 22

def margin : Rat := 8

/-- What the parts keep from the top and the bottom of a bar, and of the stack panel. -/
def barMargin : Rat := 2

def spacing : Rat := 8

/-- Height of a line of parts. A lower part stands in the middle of its line. -/
def lineHeight : Rat := 18

def lineSpacing : Rat := 3

def frameMargin : Rat := 6

def centered (s : Span) (size : Rat) : Span :=
  let first := single (single (single (s.first + s.last) / 2) - single (size / 2))
  ⟨first, single (first + size)⟩

/-- Where a part of a height stands in a line of parts that begins at a height. A higher part makes
the line grow downwards. -/
def inLine (top height : Rat) : Span :=
  let frame := centered ⟨top, top + lineHeight⟩ (larger lineHeight height)
  let lift := larger 0 (single (top - frame.first))
  centered ⟨single (frame.first + lift), single (frame.last + lift)⟩ height

variable (w : Window)

def stackShown : Bool :=
  w.session.showStack && w.session.stack.isSome

/-- Width of the screen. In the frame that changes the zoom it is still that of the old zoom. -/
def screenWidth : Rat :=
  Zoom.convert w.oldZoom w.zoom w.width

def screenHeight : Rat :=
  Zoom.convert w.oldZoom w.zoom w.height

/-- What is between the bars, from the left side up to the stack panel. -/
def mainPanel : Region :=
  ⟨⟨0, w.screenWidth - if w.stackShown then w.stackWidth else 0⟩,
    ⟨barHeight, w.screenHeight - barHeight⟩⟩

def gridRegion : Region :=
  let panel := w.mainPanel
  let width := larger 0 (panel.width - 2 * margin - ScrollBar.thickness)
  let height := larger 0 (panel.height - 2 * margin)
  ⟨⟨margin, margin + width⟩, inLine (barHeight + margin) height⟩

def scrollBarRegion : Region :=
  let grid := w.gridRegion
  let left := grid.across.last + spacing
  ⟨⟨left, left + ScrollBar.thickness⟩, grid.down⟩

def stackRegion : Region :=
  ⟨⟨w.screenWidth - w.stackWidth + margin, w.screenWidth - margin⟩,
    ⟨barHeight + barMargin, w.screenHeight - barHeight - barMargin⟩⟩

def stackEdgeRegion : Region :=
  let edge := w.screenWidth - w.stackWidth
  ⟨⟨edge - Target.reach, edge + Target.reach⟩, ⟨barHeight, w.screenHeight - barHeight⟩⟩

def setView (view : View Source) : Window :=
  { w with session := { w.session with view } }

def setSession (session : Session) : Window :=
  { w with session }

-- ---------------------------------------------------------------------------
-- Parts
-- ---------------------------------------------------------------------------

/-- A part of this frame. One that takes clicks or drags may get the keyboard; the button pressed
elsewhere takes it away. -/
def add (t : Target) : Window :=
  let asked := if t.interactive then w.focus.ask t.part else w.focus.surrender t.part
  { w with
    targets := w.targets ++ [t]
    focus := if w.touch.turnsFrom t.part then asked.surrender t.part else asked }

def hasFocus (part : Part) : Bool :=
  w.focus.holder = some part

def requestFocus (part : Part) : Window :=
  { w with focus := w.focus.request part }

/-- A part that is clicked with the pointer, or with a key while it has the keyboard. -/
def clicked (input : Input) (part : Part) : Bool :=
  w.touch.clicked = some part || (w.hasFocus part && (input.pressed .enter || input.pressed .space))

end Window

end HexEditor
