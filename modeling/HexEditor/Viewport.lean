import HexEditor.Grid
import HexEditor.Offset

/-!
# The viewport

The window onto the grid: its size in pixels, the scroll position, and how far it can scroll.
-/

namespace HexEditor

structure ScrollExtents where
  verticalMax : Nat := 0
  verticalEnabled : Bool := false
  horizontalMax : Nat := 0
  horizontalEnabled : Bool := false
deriving DecidableEq, Repr, Inhabited

structure Viewport where
  firstRow : Nat := 0
  firstColumn : Nat := 0
  width : Nat := 640
  height : Nat := 480
  extents : ScrollExtents := {}
deriving DecidableEq, Repr, Inhabited

namespace Viewport

/-- Rows past the last one that scrolling can still reach. -/
def marginRows : Nat := 2

/-- Rows that fit under the top padding; a row that fits in part counts. -/
def visibleRows (v : Viewport) (topPadding : Int) (rowHeight : Nat) : Nat :=
  divUp (v.height - topPadding).toNat (max rowHeight 1)

def setFirstRow (v : Viewport) (row : Nat) : Viewport :=
  { v with firstRow := min row v.extents.verticalMax }

def setFirstColumn (v : Viewport) (column : Nat) : Viewport :=
  { v with firstColumn := min column v.extents.horizontalMax }

def scrollRows (v : Viewport) (delta : Int) : Viewport :=
  v.setFirstRow (Offset.shift v.firstRow delta)

def scrollToNibble (v : Viewport) (nibble bytesPerRow : Nat) : Viewport :=
  v.setFirstRow (nibble / (2 * bytesPerRow))

/-- Scroll by as few rows as needed to show a nibble. -/
def ensureVisible (v : Viewport) (nibble bytesPerRow visibleRows : Nat) : Viewport :=
  let row := nibble / (2 * bytesPerRow)
  let rows := max visibleRows 1
  if row < v.firstRow then v.setFirstRow row
  else if v.firstRow + rows ≤ row then v.setFirstRow (row + 1 - rows)
  else v

def reveal (v : Viewport) (nibble bytesPerRow visibleRows : Nat) : Bool × Viewport :=
  let shown := v.ensureVisible nibble bytesPerRow visibleRows
  (shown.firstRow ≠ v.firstRow, shown)

/-- How far the content of a grid can be scrolled in a window of this size. -/
def extentsFor (v : Viewport) (g : Grid) : ScrollExtents :=
  let shown := v.visibleRows g.topPadding g.metrics.rowHeight
  let total := divUp g.length g.layout.bytesPerRow
  let contentWidth := g.contentWidth.toNat
  { verticalMax := if shown < total then total - shown + marginRows else 0
    verticalEnabled := shown < total
    horizontalMax :=
      if v.width < contentWidth then (contentWidth - v.width) / max g.metrics.charWidth 1 + 1 else 0
    horizontalEnabled := v.width < contentWidth }

def recomputeExtents (v : Viewport) (g : Grid) : Viewport :=
  let extents := v.extentsFor g
  { v with
    extents
    firstRow := min v.firstRow extents.verticalMax
    firstColumn := min v.firstColumn extents.horizontalMax }

end Viewport

def Grid.shownRange (g : Grid) : ByteRange :=
  ⟨g.firstByte, g.shownBytes⟩

end HexEditor
