import HexEditor.Layout

/-!
# The grid

Where bytes are drawn. A row has an address, the hex pane and the text pane. Positions on the grid
are counted in bytes from the start of the data, and in nibbles: nibble `2 * p` is the high digit of
the cell at position `p`, nibble `2 * p + 1` its low digit. A baseline is the lower edge of the
glyphs of a row.

With `flipBytes` the bytes of each column are drawn in reverse, so that little-endian words read
naturally. A column cut short by the end of its row or of the data is reversed within the bytes that
it has. The map is its own inverse, so it leads from positions to offsets and back.

The gaps between columns, the padding of the panes and the end of the data belong to no cell. Rows
fill their whole height: the gap under the glyphs of a row counts to it.
-/

namespace HexEditor

inductive Pane
  | offsets
  | hex
  | text
deriving DecidableEq, Repr, Inhabited

def Pane.name : Pane → String
  | offsets => "Offsets"
  | hex => "Hex"
  | text => "Text"

def Pane.ofName? (name : String) : Option Pane :=
  [offsets, hex, text].find? (·.name = name)

structure Grid where
  layout : Layout := {}
  metrics : Metrics := {}
  /-- Number of bytes of the data. -/
  length : Nat := 0
  firstRow : Nat := 0
  /-- Characters scrolled to the right. -/
  firstColumn : Nat := 0
  visibleRows : Nat := 0
deriving DecidableEq, Repr, Inhabited

namespace Grid

/-- Left padding of addresses, of the hex pane and of the text pane. -/
def paddingLeft : Int := 10

def hexPaneExtra : Int := 15

variable (g : Grid)

def charWidth : Int := pixels g.metrics.charWidth

def glyphHeight : Int := pixels g.metrics.charHeight

def rowHeight : Int := pixels g.metrics.rowHeight

-- ---------------------------------------------------------------------------
-- Panes
-- ---------------------------------------------------------------------------

def topPadding : Int := g.metrics.topPadding

def scrollX : Int := pixels (g.firstColumn * g.metrics.charWidth)

def offsetPaneWidth : Int := g.metrics.addressColumn g.layout.addressWidth

def columnSize : Int :=
  2 * pixels g.layout.bytesPerColumn * g.charWidth + pixels g.layout.columnSpacing

def hexPaneLeft : Int := g.offsetPaneWidth - g.scrollX

def hexPaneWidth : Int := hexPaneExtra + g.columnSize * pixels g.layout.columnsPerRow

def textPaneLeft : Int := g.hexPaneLeft + g.hexPaneWidth

def contentWidth : Int :=
  g.offsetPaneWidth + g.hexPaneWidth + paddingLeft + g.charWidth * pixels g.layout.bytesPerRow

-- ---------------------------------------------------------------------------
-- Rows and cells
-- ---------------------------------------------------------------------------

def baseline (row : Nat) : Int := wrapPixels (g.topPadding + row * g.metrics.rowHeight)

def rowTop (row : Nat) : Int := g.baseline row - g.glyphHeight

def firstByte : Nat := g.firstRow * g.layout.bytesPerRow

/-- Positions on screen, whatever the length of the data. -/
def capacity : Nat := g.visibleRows * g.layout.bytesPerRow

def shownBytes : Nat := min g.capacity (g.length - g.firstByte)

def NibbleVisible (nibble : Nat) : Prop :=
  2 * g.firstByte ≤ nibble ∧ nibble < 2 * g.firstByte + 2 * g.capacity

instance (nibble : Nat) : Decidable (g.NibbleVisible nibble) :=
  inferInstanceAs (Decidable (_ ∧ _))

/-- Left edge of the hex cell of the `n`-th byte of a row. -/
def hexCellX (n : Nat) : Int :=
  g.hexPaneLeft + paddingLeft + pixels (n / g.layout.bytesPerColumn) * g.columnSize +
    pixels (n % g.layout.bytesPerColumn) * 2 * g.charWidth

/-- Left edge of the text cell of the `n`-th byte of a row. -/
def textCellX (n : Nat) : Int :=
  g.textPaneLeft + paddingLeft + pixels n * g.charWidth

def nibbleBounds (nibble : Nat) : Rect :=
  if g.NibbleVisible nibble then
    let rowNibbles := 2 * g.layout.bytesPerRow
    let columnNibbles := 2 * g.layout.bytesPerColumn
    let shown := nibble - 2 * g.firstByte
    let inRow := shown % rowNibbles
    { x := g.hexPaneLeft + paddingLeft + pixels (inRow / columnNibbles) * g.columnSize +
        pixels (inRow % columnNibbles) * g.charWidth
      y := g.rowTop (shown / rowNibbles)
      width := g.charWidth
      height := g.glyphHeight }
  else .nowhere

def textBounds (nibble : Nat) : Rect :=
  if g.NibbleVisible nibble then
    let shown := (nibble - 2 * g.firstByte) / 2
    { x := g.textCellX (shown % g.layout.bytesPerRow)
      y := g.rowTop (shown / g.layout.bytesPerRow)
      width := g.charWidth
      height := g.glyphHeight }
  else .nowhere

/-- Thin bar in front of a digit, or in front of a character in the text pane. -/
def caretBounds (nibble : Nat) (pane : Pane) : Rect :=
  let cell := if pane = .text then g.textBounds nibble else g.nibbleBounds nibble
  if cell.IsEmpty then .nowhere
  else ⟨cell.x - 1, cell.y - 1, 2, cell.height + 2⟩

-- ---------------------------------------------------------------------------
-- Positions and offsets
-- ---------------------------------------------------------------------------

/-- Offset of the byte drawn at a position, and position of the byte at an offset. -/
def flip (position : Nat) : Nat :=
  if g.layout.flipBytes ∧ position < g.length then
    let rowStart := position - position % g.layout.bytesPerRow
    let inRow := position - rowStart
    let columnStart := rowStart + inRow - inRow % g.layout.bytesPerColumn
    let columnBytes :=
      min (min g.layout.bytesPerColumn (rowStart + g.layout.bytesPerRow - columnStart))
        (g.length - columnStart)
    columnStart + columnBytes - 1 - (position - columnStart)
  else position

def offsetOfNibble (nibble : Nat) : Nat :=
  g.flip (nibble / 2)

/-- High nibble of the position where the byte at an offset is drawn. -/
def nibbleOfOffset (offset : Nat) : Nat :=
  2 * g.flip offset

-- ---------------------------------------------------------------------------
-- What lies under a point
-- ---------------------------------------------------------------------------

def paneAt? (x y : Int) : Option Pane :=
  if y < g.rowTop 0 then none
  else if x < g.hexPaneLeft then some .offsets
  else if x < g.textPaneLeft then some .hex
  else some .text

def rowAt? (y : Int) : Option Nat :=
  if y < g.rowTop 0 then none
  else
    let row := Offset.ofInt ((y - g.rowTop 0).tdiv g.rowHeight)
    if row < g.visibleRows then some row else none

/-- Nibble of a row whose digit is drawn `dx` pixels right of the row's first digit. -/
def hexNibbleAt? (dx : Int) : Option Nat :=
  let column := Offset.ofInt (dx.tdiv g.columnSize)
  let nibble := Offset.ofInt ((dx.tmod g.columnSize).tdiv g.charWidth)
  if 2 * g.layout.bytesPerColumn ≤ nibble then none
  else if g.layout.bytesPerRow ≤ column * g.layout.bytesPerColumn + nibble / 2 then none
  else some (2 * (column * g.layout.bytesPerColumn) + nibble)

/-- High nibble of the byte of a row whose character is drawn `dx` pixels right of the row's first
one. -/
def textNibbleAt? (dx : Int) : Option Nat :=
  if dx < 0 then none
  else
    let character := Offset.ofInt (dx.tdiv g.charWidth)
    if g.layout.bytesPerRow ≤ character then none else some (2 * character)

def rowNibbleAt? (x : Int) : Option Nat :=
  if x < g.hexPaneLeft + paddingLeft then none
  else if x < g.textPaneLeft then g.hexNibbleAt? (x - (g.hexPaneLeft + paddingLeft))
  else g.textNibbleAt? (x - (g.textPaneLeft + paddingLeft))

/-- Nibble under a point, if a byte is drawn there. -/
def nibbleAt? (x y : Int) : Option Nat := do
  let row ← g.rowAt? y
  let inRow ← g.rowNibbleAt? x
  let nibble := 2 * (g.firstByte + row * g.layout.bytesPerRow) + inRow
  if nibble < 2 * g.length then some nibble else none

/-- Rectangles to highlight when the pointer is at a point: the digit under it, or both digits of a
character, and the character. -/
def hoverRects (x y : Int) : List Rect :=
  match g.nibbleAt? x y with
  | none => []
  | some nibble =>
    let digits :=
      if g.paneAt? x y = some .text then [g.nibbleBounds nibble, g.nibbleBounds (nibble + 1)]
      else [g.nibbleBounds nibble]
    (digits ++ [g.textBounds nibble]).filter (fun r => ¬ r.IsEmpty)

end Grid

end HexEditor
