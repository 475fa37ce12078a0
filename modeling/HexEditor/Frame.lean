import HexEditor.Color
import HexEditor.Grid
import HexEditor.Highlight
import HexEditor.Poller
import HexEditor.Selection
import HexEditor.Text

/-!
# Frames

A frame is everything a host needs to paint the grid once: the extent of the panes, an address per
row, two cells per byte, the highlighted rectangles under the pointer, and the caret. A byte that is
selected is drawn so; else a highlight colors it, else the colormap, else its column.
-/

namespace HexEditor

/-- Foreground and background for the byte at an index of the visible data, or nothing to keep the
defaults. -/
abbrev Colormap := Bytes → Nat → Option (Option Color × Option Color)

def Colormap.byClass (zero printable full : Color) : Colormap := fun data index =>
  match data[index]? with
  | none => none
  | some b =>
    if b = 0x00 then some (some zero, none)
    else if b = 0xFF then some (some full, none)
    else if isPrintable b then some (some printable, none)
    else none

def Colormap.classes : Colormap :=
  byClass ⟨160, 160, 160, 255⟩ ⟨0, 120, 0, 255⟩ ⟨200, 40, 40, 255⟩

structure CellStyle where
  foreground : Color
  background : Option Color
  selected : Bool
deriving DecidableEq, Repr

structure Cell where
  pane : Pane
  /-- Where the byte is drawn. -/
  position : Nat
  /-- Which byte is drawn. -/
  offset : Nat
  x : Int
  baseline : Int
  /-- Area of the background. -/
  bounds : Rect
  text : String
  style : CellStyle
deriving DecidableEq, Repr

structure OffsetLabel where
  text : String
  x : Int
  baseline : Int
deriving DecidableEq, Repr

structure PaneBounds where
  offsetsLeft : Int
  hexLeft : Int
  textLeft : Int
  contentRight : Int
deriving DecidableEq, Repr

structure Frame where
  status : Status
  panes : PaneBounds
  offsets : List OffsetLabel
  cells : List Cell
  hover : List Rect
  caret : Option Rect
deriving DecidableEq, Repr

structure Scene where
  grid : Grid
  selection : Selection
  layers : Layers
  colormap : Option Colormap
  palette : Palette
  /-- Bytes from the first visible one on, or none while they are missing. -/
  data : Option Bytes
  activePane : Pane
  hover : Option (Int × Int)
  enabled : Bool
  showCaret : Bool

namespace Scene

variable (s : Scene)

/-- Style of a byte in a pane where its text has the color `fallback` by default. -/
def style (data : Bytes) (position offset : Nat) (fallback : Color) : CellStyle :=
  if s.selection.Selects position then ⟨fallback, some s.palette.selection, true⟩
  else
    match s.layers.find? offset with
    | some h => ⟨h.foreground.getD fallback, h.background, false⟩
    | none =>
      match s.colormap.bind fun colors => colors data (offset - s.grid.firstByte) with
      | some (foreground, background) => ⟨foreground.getD fallback, background, false⟩
      | none => ⟨fallback, none, false⟩

def disabledStyle : CellStyle :=
  ⟨s.palette.disabled, none, false⟩

/-- Digits of the `n`-th byte of a row alternate in color from column to column. -/
def hexColor (n : Nat) : Color :=
  if (n / s.grid.layout.bytesPerColumn) % 2 = 0 then s.palette.hexForeground
  else s.palette.hexForegroundAlt

def byteAt? (offset : Nat) : Option UInt8 :=
  s.data.bind fun data => data[offset - s.grid.firstByte]?

def cellStyle (position offset : Nat) (fallback : Color) : CellStyle :=
  match s.data, s.byteAt? offset with
  | some data, some _ =>
    if s.enabled then s.style data position offset fallback else s.disabledStyle
  | _, _ => s.disabledStyle

def hexCell (i : Nat) : Cell :=
  let g := s.grid
  let position := g.firstByte + i
  let offset := g.flip position
  let inRow := i % g.layout.bytesPerRow
  let baseline := g.baseline (i / g.layout.bytesPerRow)
  let x := g.hexCellX inRow
  { pane := .hex, position, offset, x, baseline
    bounds := ⟨x, baseline - g.glyphHeight, 2 * g.charWidth, g.glyphHeight + 2⟩
    text := (s.byteAt? offset).elim "??" Hex.byte
    style := s.cellStyle position offset (s.hexColor inRow) }

def textCell (i : Nat) : Cell :=
  let g := s.grid
  let position := g.firstByte + i
  let offset := g.flip position
  let baseline := g.baseline (i / g.layout.bytesPerRow)
  let x := g.textCellX (i % g.layout.bytesPerRow)
  { pane := .text, position, offset, x, baseline
    bounds := ⟨x, baseline - g.glyphHeight, g.charWidth, g.glyphHeight + 2⟩
    text := (s.byteAt? offset).elim "?" byteText
    style := s.cellStyle position offset s.palette.textForeground }

def cells : List Cell :=
  (List.range s.grid.shownBytes).flatMap fun i => [s.hexCell i, s.textCell i]

end Scene

/-- Addresses of up to `count` rows from a visible row on; rows past the end of the data have
none. -/
def Grid.labelsFrom (g : Grid) (row : Nat) : Nat → List OffsetLabel
  | 0 => []
  | count + 1 =>
    let offset := g.firstByte + row * g.layout.bytesPerRow
    if offset < g.length then
      ⟨g.layout.formatAddress offset, Grid.paddingLeft - g.scrollX, g.baseline row⟩ ::
        g.labelsFrom (row + 1) count
    else []

def Grid.labels (g : Grid) : List OffsetLabel :=
  g.labelsFrom 0 g.visibleRows

def Grid.paneBounds (g : Grid) : PaneBounds :=
  ⟨-g.scrollX, g.hexPaneLeft, g.textPaneLeft, g.contentWidth - g.scrollX⟩

def Scene.hoverRects (s : Scene) : List Rect :=
  match s.hover with
  | some (x, y) => if s.data.isSome ∧ s.enabled then s.grid.hoverRects x y else []
  | none => []

def Scene.caretRect? (s : Scene) : Option Rect :=
  let bounds := s.grid.caretBounds s.selection.caret s.activePane
  if s.data.isSome ∧ s.showCaret ∧ ¬ bounds.IsEmpty then some bounds else none

def Scene.compose (s : Scene) : Frame :=
  { status := if s.data.isSome then .defined else .undefined
    panes := s.grid.paneBounds
    offsets := s.grid.labels
    cells := s.cells
    hover := s.hoverRects
    caret := s.caretRect? }

end HexEditor
