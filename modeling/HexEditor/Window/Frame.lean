import HexEditor.Window.GotoDialog
import HexEditor.Window.GridPanel
import HexEditor.Window.MenuBar

/-!
# Frames

A frame goes through the parts of the window from the back to the front. At the right side of the
window is the stack panel. Its edge is dragged to make it wider; the wheel moves it by one row at a
time.
-/

namespace HexEditor

-- ---------------------------------------------------------------------------
-- The stack panel
-- ---------------------------------------------------------------------------

namespace Window

def leastStackWidth : Rat := 96

variable (w : Window)

/-- The width of the stack panel follows the pointer while its edge is dragged, and is never more
than that of the screen. -/
def sizeStack : Window :=
  let dragged :=
    match w.touch.contactOn .stackEdge, w.touch.drags .stackEdge with
    | some p, true => (p.x - w.screenWidth).abs
    | _, _ => w.stackWidth
  { w with stackWidth := smaller (larger leastStackWidth dragged) w.screenWidth }

def scrollStack (input : Input) (table : StackTable WordStack) : StackTable WordStack :=
  if input.wheel ≠ 0 ∧ w.touch.hovers .stack then
    table.setFirstRow (Offset.shift table.firstRow (-input.wheel.sign)) else table

def readStack (table : StackTable WordStack) : Option String × StackTable WordStack :=
  match w.touch.position, w.touch.hovers .stack with
  | some p, true => table.valueAt (truncate (p.y - w.stackRegion.down.first))
  | _, _ => (none, table)

def stackPanel (now : Nat) (input : Input) : Window :=
  match w.session.stack, w.session.showStack with
  | some table, true =>
    let w := w.sizeStack
    let w := w.add { part := .stack, region := w.stackRegion }
    let height := larger 0 w.stackRegion.height
    let table :=
      w.scrollStack input { table with metrics := w.zoom.font, height := height.floor.toNat }
    let (frame, table) := (table.tick now).2.render now
    let (value, table) := w.readStack table
    let w := w.setSession { w.session with stack := some table }
    { w with
      stackPainting := some (frame.shapes w.session.view.palette (roundAway height).toNat)
      stackValue := value }.add { part := .stackEdge, region := w.stackEdgeRegion, drags := true }
  | _, _ => { w with stackPainting := none, stackValue := none }

end Window

-- ---------------------------------------------------------------------------
-- One frame
-- ---------------------------------------------------------------------------

namespace Window

def placeholder : String := "Open a file to view its contents."

variable (w : Window)

/-- A key for the zoom acts in the next frame. -/
def advanceZoom (input : Input) : Window :=
  let nextZoom := input.key.elim w.nextZoom w.nextZoom.after
  { w with oldZoom := w.zoom, zoom := w.nextZoom, nextZoom }

def receive (input : Input) : Window :=
  let pointer := input.pointer.elim w.pointer w.pointer.step
  { w with
    pointer
    touch := w.touch.grip.touch w.targets w.pointer pointer input.pointer (input.pressed .escape)
    focus := w.focus.start input.key
    targets := [] }

def emptyPanel : Window :=
  { w with texts := w.texts ++ [placeholder], painting := none }

def frame (now : Nat) (input : Input) : Window :=
  let w := (((w.advanceZoom input).receive input).bars input).stackPanel now input
  let w := if w.session.hasSource then (w.gridPanel now input).gotoDialog input else w.emptyPanel
  { w with
    texts := w.texts ++ w.overlayTexts
    targets := w.targets.mergeSort (·.layer ≤ ·.layer)
    focus := w.focus.finish w.targets }

end Window

end HexEditor
