import HexEditor.Grid
import HexEditor.View

/-!
# Layouts and lengths that were never validated

A validated layout never divides by zero, and the offsets of data of less than `2 ^ 63` bytes never
overflow. These variants take any layout and any length: where a zero row, column or font size would
be a divisor on the way to the answer, or a number on the way would be none of 64 bits, there is
none.
-/

namespace HexEditor

def undefinedIf (failed : Prop) [Decidable failed] (answer : α) : Option α :=
  if failed then none else some answer

def Layout.columnsPerRow? (l : Layout) : Option Nat :=
  undefinedIf (l.bytesPerColumn = 0) l.columnsPerRow

namespace Grid

variable (g : Grid)

/-- The columns of a row cannot be counted, so nothing right of the hex pane's left edge has a
place. -/
def Columnless : Prop :=
  g.layout.bytesPerColumn = 0

instance : Decidable g.Columnless :=
  inferInstanceAs (Decidable (_ = _))

def widths? : Option (Int × Int × Int) :=
  undefinedIf g.Columnless (g.hexPaneWidth, g.textPaneLeft, g.contentWidth)

def cellX? (n : Nat) : Option (Int × Int) :=
  undefinedIf g.Columnless (g.hexCellX n, g.textCellX n)

def paneAtChecked (x y : Int) : Option (Option Pane) :=
  undefinedIf (g.rowTop 0 ≤ y ∧ g.hexPaneLeft ≤ x ∧ g.Columnless) (g.paneAt? x y)

/-- A row is under the height `y`, and the nibble under `x` needs a zero divisor. -/
def RowNibbleUndefined (x : Int) : Prop :=
  g.Columnless ∨
    if x < g.textPaneLeft then g.columnSize = 0 ∨ g.charWidth = 0
    else g.textPaneLeft + paddingLeft ≤ x ∧ g.charWidth = 0

instance (x : Int) : Decidable (g.RowNibbleUndefined x) :=
  inferInstanceAs (Decidable (_ ∨ _))

def nibbleAtChecked (x y : Int) : Option (Option Nat) :=
  undefinedIf
    (g.hexPaneLeft + paddingLeft ≤ x ∧ g.rowTop 0 ≤ y ∧
      (g.rowHeight = 0 ∨ (g.rowAt? y).isSome ∧ g.RowNibbleUndefined x))
    (g.nibbleAt? x y)

def nibbleBounds? (nibble : Nat) : Option Rect :=
  undefinedIf (g.NibbleVisible nibble ∧ g.Columnless) (g.nibbleBounds nibble)

def textBounds? (nibble : Nat) : Option Rect :=
  undefinedIf (g.NibbleVisible nibble ∧ g.Columnless) (g.textBounds nibble)

def caretBounds? (nibble : Nat) (pane : Pane) : Option Rect :=
  undefinedIf (g.NibbleVisible nibble ∧ g.Columnless) (g.caretBounds nibble pane)

def rowStop (position : Nat) : Nat :=
  position - position % g.layout.bytesPerRow + g.layout.bytesPerRow

def flip? (position : Nat) : Option Nat :=
  undefinedIf
    (g.layout.flipBytes ∧ position < g.length ∧
      (g.layout.bytesPerRow = 0 ∨ g.Columnless ∨ Offset.top < g.rowStop position))
    (g.flip position)

def offsetOfNibble? (nibble : Nat) : Option Nat :=
  g.flip? (nibble / 2)

def nibbleOfOffset? (offset : Nat) : Option Nat := do
  let position ← g.flip? offset
  undefinedIf (Offset.top < 2 * position) (2 * position)

end Grid

namespace Viewport

variable (v : Viewport)

def scrollToNibble? (nibble bytesPerRow : Nat) : Option Viewport :=
  undefinedIf (bytesPerRow = 0) (v.scrollToNibble nibble bytesPerRow)

def reveal? (nibble bytesPerRow visibleRows : Nat) : Option (Bool × Viewport) :=
  undefinedIf (bytesPerRow = 0) (v.reveal nibble bytesPerRow visibleRows)

def recomputeExtents? (g : Grid) : Option Viewport :=
  undefinedIf
    (g.layout.bytesPerRow = 0 ∨ g.Columnless ∨ Offset.top < (v.extentsFor g).verticalMax)
    (v.recomputeExtents g)

end Viewport

def View.install? [ByteSource σ] (v : View σ) (source : σ) : Option (View σ) :=
  undefinedIf (Offset.top < 2 * ByteSource.length source) (v.install source)

end HexEditor
