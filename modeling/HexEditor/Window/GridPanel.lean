import HexEditor.Window.Basic

/-!
# The grid in the window

What pointer, wheel and keyboard do to the view, its painting, and the scroll bar at its side.
-/

namespace HexEditor

namespace Window

variable (w : Window)

def placeGrid : Window :=
  let region := w.gridRegion
  let view :=
    match w.session.view.setMetrics w.zoom.font with
    | .ok view => view
    | .error _ => w.session.view
  let view := view.resize (single region.width).floor.toNat (single region.height).floor.toNat
  { w.setView view with gridCorner := region.corner }.add
    { part := .grid, region := region.meet w.mainPanel, clicks := true, drags := true }

def toGrid (p : Point) : Int × Int :=
  (truncate (single (p.x - w.gridCorner.x)), truncate (single (p.y - w.gridCorner.y)))

def hover : Window :=
  let view := w.session.view
  w.setView (match w.touch.position, w.touch.hovers .grid with
    | some p, true => view.hoverAt (w.toGrid p).1 (w.toGrid p).2
    | _, _ => view.leave)

/-- A press on the grid takes the keyboard; a drag goes on in every frame. -/
def button : Window :=
  match w.touch.contactOn .grid with
  | some p =>
    let (x, y) := w.toGrid p
    if w.touch.pressed ∧ w.touch.holds .grid then
      (w.requestFocus .grid).setView (w.session.view.press x y)
    else if w.touch.drags .grid then w.setView (w.session.view.drag x y)
    else w
  | none => w

def contextMenu (input : Input) : Window :=
  let session :=
    match w.touch.contact, input.secondaryClick && w.touch.hits.click = some .grid with
    | some p, true =>
      { w.session with contextOffset := w.session.view.offsetAt? (w.toGrid p).1 (w.toGrid p).2 }
    | _, _ => w.session
  { w with session := input.context.elim session fun item => (session.chooseContext item).2 }

/-- Rows that a turn of the wheel scrolls: the nearest number, halves away from zero, but one at
least. -/
def wheelRows (wheel : Int) (rowHeight : Nat) : Int :=
  let rows := roundAway (single (-single wheel / larger 1 rowHeight))
  if rows = 0 then -wheel.sign else rows

def wheel (input : Input) : Window :=
  if input.wheel ≠ 0 ∧ w.touch.hovers .grid then
    let view := w.session.view
    w.setView (view.scrollWheel (wheelRows input.wheel view.metrics.rowHeight))
  else w

def typeText (text : String) : Window :=
  let (outcomes, view) := w.session.view.typeText text
  let rejections := outcomes.filterMap fun
    | .ok _ => none
    | .error (reason : Rejection) => some ("Edit rejected: " ++ reason.name)
  let message := rejections.getLast?.getD w.session.message
  { w with session := { w.session with view, message } }

def pressKey (k : KeyPress) : Window :=
  let view := w.session.view
  match k.key with
  | .left => w.setView (view.moveLeft k.shift)
  | .right => w.setView (view.moveRight k.shift)
  | .up => w.setView (view.moveUp k.shift)
  | .down => w.setView (view.moveDown k.shift)
  | .pageUp => w.setView (view.pageUp k.shift)
  | .pageDown => w.setView (view.pageDown k.shift)
  | .home => w.setView (view.moveBy (-view.caret) k.shift)
  | .last => w.setView (view.moveBy view.selection.limit k.shift)
  | .tab => w.setView view.togglePane
  | .g => if k.command then { w with session := w.session.openGoto } else w
  | _ => w

/-- With the keyboard the grid keeps Tab and the arrow keys to itself. -/
def keyboard (input : Input) : Window :=
  let focused := w.hasFocus .grid
  let w := w.setView (w.session.view.setFocused focused)
  if focused then
    let kept := { w with focus := w.focus.keep .grid ⟨true, true, true⟩ }
    let typed := kept.typeText input.text
    input.key.elim typed typed.pressKey
  else w

/-- A grid that is cut off by its panel is not painted. -/
def paint (now : Nat) : Window :=
  let (frame, view) := (w.session.view.tick now).render now
  let region := w.gridRegion
  { w.setView view with
    painting :=
      if w.mainPanel.Covers region then
        some (frame.shapes view.palette (roundAway region.height).toNat) else none }

-- ---------------------------------------------------------------------------
-- The scroll bar
-- ---------------------------------------------------------------------------

def scrollBarRow (input : Input) (last row : Nat) : Nat :=
  match input.scrollBar with
  | some .top => 0
  | some .bottom => ScrollBar.whole last last
  | none =>
    let row : Nat :=
      match w.touch.contactOn .scrollBar with
      | some p => ScrollBar.row w.scrollBarRegion.down last (1 / w.zoom.factor) p.y
      | none => row
    if w.hasFocus .scrollBar then
      if input.pressed .up then ScrollBar.whole last (double row - 1)
      else if input.pressed .down then ScrollBar.whole last (double row + 1)
      else row
    else row

/-- The scroll bar of one frame. With the keyboard it keeps the keys for up and down. -/
def scrollBar (input : Input) : Window :=
  let view := w.session.view
  let extents := view.viewport.extents
  let enabled := extents.verticalEnabled
  let w := w.add { part := .scrollBar, region := w.scrollBarRegion.meet w.mainPanel,
                   drags := enabled }
  if enabled then
    let first := view.viewport.firstRow
    let row := w.scrollBarRow input extents.verticalMax first
    let w := { w with focus := w.focus.keep .scrollBar { vertical := true } }
    if row = first then w else w.setView (view.setFirstRow row)
  else w

def gridPanel (now : Nat) (input : Input) : Window :=
  let w := ((((w.placeGrid.hover).button).contextMenu input).wheel input).keyboard input
  let w := (w.paint now).scrollBar input
  w.setSession w.session.processEvents

end Window

end HexEditor
