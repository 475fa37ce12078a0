import HexEditor.Grid
import HexEditor.Proofs.Grid.Flip
import HexEditor.Proofs.Word.Basic

/-!
# The grid in machine words

The measures of a grid once more, computed with words: pixel measures with 32 bits, positions with
64. A grid is `Drawable` if layout and font are valid and the scroll position and the rows on screen
are not too far out. Nothing overflows then, and every measure comes out as it is without words.
-/

namespace HexEditor

namespace InWords

variable (g : Grid)

-- ---------------------------------------------------------------------------
-- Panes
-- ---------------------------------------------------------------------------

def charWidth : PixelWord := .of g.metrics.charWidth

def glyphHeight : PixelWord := .of g.metrics.charHeight

def rowHeight : PixelWord := .of g.metrics.rowHeight

def topPadding : PixelWord := max 16 (glyphHeight g + 4)

def scrollX : PixelWord := .of g.firstColumn * charWidth g

def offsetPaneWidth : PixelWord := 20 + charWidth g * .of g.layout.addressWidth.digits

def columnSize :
    PixelWord := 2 * .of g.layout.bytesPerColumn * charWidth g + .of g.layout.columnSpacing

def hexPaneLeft : PixelWord := offsetPaneWidth g - scrollX g

def hexPaneWidth : PixelWord := 15 + columnSize g * .of g.layout.columnsPerRow

def textPaneLeft : PixelWord := hexPaneLeft g + hexPaneWidth g

def contentWidth : PixelWord :=
  offsetPaneWidth g + hexPaneWidth g + 10 + charWidth g * .of g.layout.bytesPerRow

-- ---------------------------------------------------------------------------
-- Rows and cells
-- ---------------------------------------------------------------------------

def baseline (row : Nat) : PixelWord := topPadding g + .of row * rowHeight g

def rowTop (row : Nat) : PixelWord := baseline g row - glyphHeight g

def rowBytes : OffsetWord := .of g.layout.bytesPerRow

def columnBytes : OffsetWord := .of g.layout.bytesPerColumn

def firstByte : OffsetWord := .of g.firstRow * rowBytes g

def capacity : OffsetWord := .of g.visibleRows * rowBytes g

def hexCellX (n : Nat) : PixelWord :=
  hexPaneLeft g + 10 + .of (n / g.layout.bytesPerColumn : Nat) * columnSize g +
    .of (n % g.layout.bytesPerColumn : Nat) * 2 * charWidth g

def textCellX (n : Nat) : PixelWord :=
  textPaneLeft g + 10 + .of n * charWidth g

end InWords

namespace Grid

/-- A grid whose measures fit into machine words. -/
structure Drawable (g : Grid) : Prop where
  valid : g.Valid
  length_lt : g.length < 2 ^ 62
  firstByte_le : g.firstByte ≤ 2 ^ 62 + 3 * 4096
  scroll_lt : g.firstColumn * g.metrics.charWidth < 2 ^ 23
  baseline_lt : ∀ row < g.visibleRows, g.topPadding + row * g.metrics.rowHeight < 2 ^ 31

end Grid

namespace InWords

open Word

theorem within_pixels {n u : Nat} (h : n ≤ u) (hu : u < 0x80000000) :
    (of n : PixelWord).Within (pixels n) 0 u := by
  rw [pixels_of_lt (by omega)]
  exact within_of (by omega) (by omega) (by omega)

theorem padding_within : (10 : PixelWord).Within Grid.paddingLeft 10 10 :=
  within_self 10 (by decide)

variable {g : Grid}

-- ---------------------------------------------------------------------------
-- Measures of a valid layout and font
-- ---------------------------------------------------------------------------

section
variable (hg : g.Valid)
include hg

theorem charWidth_within : (charWidth g).Within g.charWidth 1 256 :=
  have hwidth := within_pixels hg.metrics.width_le (by decide)
  hwidth.mono hg.charWidth_pos hwidth.le

theorem rowHeight_within : (rowHeight g).Within g.rowHeight 1 256 :=
  have hheight := within_pixels hg.metrics.row_le (by decide)
  hheight.mono hg.rowHeight_pos hheight.le

theorem glyphHeight_within : (glyphHeight g).Within g.glyphHeight 1 256 := by
  have hheight := within_pixels (Nat.le_trans hg.metrics.height_le hg.metrics.row_le) (by decide)
  exact hheight.mono hg.glyphHeight_pos hheight.le

theorem topPadding_within : (topPadding g).Within g.topPadding 16 260 :=
  (within_self 16 (by decide)).max
    ((glyphHeight_within hg).add (within_self 4 (by decide)) (by decide)) (by decide)

theorem offsetPaneWidth_within : (offsetPaneWidth g).Within g.offsetPaneWidth 20 4116 := by
  have hdigits :
      (of g.layout.addressWidth.digits : PixelWord).Within g.layout.addressWidth.digits 8 16 := by
    cases g.layout.addressWidth <;> exact within_of (by decide) (by decide) (by decide)
  exact (within_self 20 (by decide)).add ((charWidth_within hg).mul hdigits (by decide)) (by decide)

theorem columnSize_within : (columnSize g).Within g.columnSize 1 2097408 := by
  have hcolumn := within_pixels (Nat.le_trans hg.layout.column_le hg.layout.row_le) (by decide)
  have hspacing := within_pixels hg.layout.spacing_le (by decide)
  have hdigits :=
    ((within_self 2 (by decide)).mul hcolumn (by decide)).mul (charWidth_within hg) (by decide)
  have hsize := hdigits.add hspacing (by decide)
  have hpos : 1 ≤ g.columnSize := by
    have := hg.layout.spacing_pos
    rw [hg.columnSize_eq]
    omega
  exact hsize.mono hpos hsize.le

theorem columns_le : g.layout.columnsPerRow * g.layout.bytesPerColumn ≤ 8192 := by
  have hrow := hg.layout.row_le
  have hcolumn := hg.layout.column_le
  have hfull : divUp g.layout.bytesPerRow g.layout.bytesPerColumn * g.layout.bytesPerColumn ≤
      g.layout.bytesPerRow + g.layout.bytesPerColumn - 1 := Nat.div_mul_le_self _ _
  unfold Layout.columnsPerRow
  omega

theorem columnsPerRow_le : g.layout.columnsPerRow ≤ 4096 :=
  Nat.le_trans (divUp_le hg.layout.column_pos) hg.layout.row_le

/-- Wide columns are few: their widths add up to less than the bounds of a column and of their
number allow. -/
theorem columns_width_le : g.columnSize * pixels g.layout.columnsPerRow ≤ 0x500000 := by
  have hdigits := Nat.mul_le_mul (Nat.mul_le_mul_left 2 (columns_le hg)) hg.metrics.width_le
  have hspacing := Nat.mul_le_mul hg.layout.spacing_le (columnsPerRow_le hg)
  have hwidth : (2 * g.layout.bytesPerColumn * g.metrics.charWidth + g.layout.columnSpacing) *
      g.layout.columnsPerRow =
      2 * (g.layout.columnsPerRow * g.layout.bytesPerColumn) * g.metrics.charWidth +
        g.layout.columnSpacing * g.layout.columnsPerRow := by
    rw [Nat.add_mul, Nat.mul_right_comm, Nat.mul_assoc 2, Nat.mul_comm g.layout.bytesPerColumn]
  rw [pixels_of_lt (Nat.lt_of_le_of_lt (columnsPerRow_le hg) (by decide)), hg.columnSize_eq,
    ← Int.natCast_mul, hwidth]
  omega

theorem hexPaneWidth_within : (hexPaneWidth g).Within g.hexPaneWidth 15 (15 + 0x500000) := by
  have hcolumns := within_pixels (columnsPerRow_le hg) (by decide)
  have hnonneg : 0 ≤ g.columnSize * pixels g.layout.columnsPerRow :=
    Int.mul_nonneg (Int.le_trans (by decide) (columnSize_within hg).ge) hcolumns.ge
  exact (within_self 15 (by decide)).add
    ((columnSize_within hg).mul_of hcolumns hnonneg (columns_width_le hg) (by decide)) (by decide)

theorem contentWidth_within : (contentWidth g).Within g.contentWidth 0 0x700000 := by
  have hrow := (charWidth_within hg).mul (within_pixels hg.layout.row_le (by decide)) (by decide)
  have hpanes := (offsetPaneWidth_within hg).add (hexPaneWidth_within hg) (by decide)
  exact ((hpanes.add padding_within (by decide)).add hrow (by decide)).widen (by decide)

end

-- ---------------------------------------------------------------------------
-- Scroll position and rows
-- ---------------------------------------------------------------------------

section
variable (hg : g.Drawable)
include hg

theorem scrollX_within : (scrollX g).Within g.scrollX 0 0x800000 := by
  have hscroll := hg.scroll_lt
  have hcolumn : (of g.firstColumn : PixelWord).Within g.firstColumn 0 0x800000 := by
    have := Nat.le_mul_of_pos_right g.firstColumn hg.valid.metrics.width_pos
    exact within_of (by omega) (by omega) (by decide)
  have hwidth := charWidth_within hg.valid
  rw [hg.valid.charWidth_eq] at hwidth
  have hproduct := Int.natCast_mul g.firstColumn g.metrics.charWidth
  rw [Grid.scrollX, pixels_of_lt (by omega), hproduct]
  exact hcolumn.mul_of hwidth (by omega) (by omega) (by decide)

theorem hexPaneLeft_within : (hexPaneLeft g).Within g.hexPaneLeft (-0x800000) 4116 :=
  ((offsetPaneWidth_within hg.valid).sub (scrollX_within hg) (by decide)).widen (by decide)

theorem textPaneLeft_within : (textPaneLeft g).Within g.textPaneLeft (-0x800000) 0x600000 :=
  ((hexPaneLeft_within hg).add (hexPaneWidth_within hg.valid) (by decide)).widen (by decide)

theorem visibleRows_le : g.visibleRows ≤ 0x80000000 := by
  by_cases hrows : g.visibleRows = 0
  · omega
  · have hlast := hg.baseline_lt (g.visibleRows - 1) (by omega)
    have hrow := Nat.le_mul_of_pos_right (g.visibleRows - 1) hg.valid.metrics.rowHeight_pos
    have htop := (topPadding_within hg.valid).ge
    omega

end

section
variable {row : Nat}

theorem baseline_within (hg : g.Valid) (h : g.topPadding + row * g.metrics.rowHeight < 2 ^ 31) :
    (baseline g row).Within (g.baseline row) 16 0x7FFFFFFF := by
  have htop := topPadding_within hg
  have hge := htop.ge
  have hrow := Nat.le_mul_of_pos_right row hg.metrics.rowHeight_pos
  have hproduct := Int.natCast_mul row g.metrics.rowHeight
  have hrowWord : (of row : PixelWord).Within row 0 0x7FFFFFFF :=
    within_of (by omega) (by omega) (by decide)
  have hheight := rowHeight_within hg
  rw [hg.baseline_eq h]
  rw [hg.rowHeight_eq] at hheight ⊢
  have hrows := hrowWord.mul_of hheight (p := 0) (q := 0x7FFFFFFF) (by omega) (by omega) (by decide)
  exact htop.add_of hrows (by omega) (by omega) (by decide)

-- A row far below the window has no baseline in words.
example : (baseline {} 0x10000000).int? = none := by decide

theorem rowTop_within (hg : g.Valid) (h : g.topPadding + row * g.metrics.rowHeight < 2 ^ 31) :
    (rowTop g row).Within (g.rowTop row) (-240) 0x7FFFFFFE :=
  (baseline_within hg h).sub (glyphHeight_within hg) (by decide)

end

-- ---------------------------------------------------------------------------
-- Positions
-- ---------------------------------------------------------------------------

theorem rowBytes_within (hg : g.Valid) : (rowBytes g).Within g.layout.bytesPerRow 1 4096 := by
  have := hg.layout.row_pos
  have := hg.layout.row_le
  exact within_of (by omega) (by omega) (by decide)

theorem columnBytes_within (hg : g.Valid) :
    (columnBytes g).Within g.layout.bytesPerColumn 1 4096 := by
  have := hg.layout.column_pos
  have := hg.layout.column_le
  have := hg.layout.row_le
  exact within_of (by omega) (by omega) (by decide)

section
variable (hg : g.Drawable)
include hg

theorem firstByte_within : (firstByte g).Within g.firstByte 0 0x4000000000003000 := by
  have hle := hg.firstByte_le
  have hrow := Nat.le_mul_of_pos_right g.firstRow hg.valid.layout.row_pos
  have hfirst : (of g.firstRow : OffsetWord).Within g.firstRow 0 0x4000000000003000 := by
    unfold Grid.firstByte at hle
    exact within_of (by omega) (by omega) (by decide)
  exact hfirst.natMul_of (rowBytes_within hg.valid) (q := 0x4000000000003000) hle (by decide)

theorem capacity_within : (capacity g).Within g.capacity 0 0x80000000000 := by
  have hrows := visibleRows_le hg
  have hvisible : (of g.visibleRows : OffsetWord).Within g.visibleRows 0 0x80000000 :=
    within_of (by omega) (by omega) (by decide)
  exact hvisible.natMul (rowBytes_within hg.valid) (by decide)

-- ---------------------------------------------------------------------------
-- Cells
-- ---------------------------------------------------------------------------

theorem columns_left_le (hc : c ≤ g.layout.columnsPerRow) :
    0 ≤ pixels c * g.columnSize ∧ pixels c * g.columnSize ≤ 0x500000 := by
  have hcolumns := columnsPerRow_le hg.valid
  have hsize : 0 ≤ g.columnSize := Int.le_trans (by decide) (columnSize_within hg.valid).ge
  have hwidth := columns_width_le hg.valid
  have hle : pixels c * g.columnSize ≤ pixels g.layout.columnsPerRow * g.columnSize := by
    rw [pixels_of_lt (n := c) (by omega), pixels_of_lt (by omega)]
    exact Int.mul_le_mul_of_nonneg_right (by omega) hsize
  refine ⟨Int.mul_nonneg (within_pixels (Nat.le_trans hc hcolumns) (by decide)).ge hsize, ?_⟩
  rw [Int.mul_comm] at hwidth
  omega

theorem digitLeft_within {column digits : PixelWord} {d : Int} (hc : c ≤ g.layout.columnsPerRow)
    (hcolumn : column.Within (pixels c) 0 4096) (hdigits : digits.Within d 0 8192) :
    (hexPaneLeft g + 10 + column * columnSize g + digits * charWidth g).Within
      (g.hexPaneLeft + Grid.paddingLeft + pixels c * g.columnSize + d * g.charWidth)
      (-0x800000) 0x800000 := by
  obtain ⟨hnonneg, hle⟩ := columns_left_le hg hc
  have hcolumns := hcolumn.mul_of (columnSize_within hg.valid) hnonneg hle (by decide)
  have hleft := (hexPaneLeft_within hg).add padding_within (by decide)
  have hcharacters := hdigits.mul (charWidth_within hg.valid) (by decide)
  exact ((hleft.add hcolumns (by decide)).add hcharacters (by decide)).widen (by decide)

section
variable {n : Nat} (hn : n < g.layout.bytesPerRow)
include hn

theorem column_le_columnsPerRow : n / g.layout.bytesPerColumn ≤ g.layout.columnsPerRow := by
  have hcolumns := divUp_mul_ge (a := g.layout.bytesPerRow) hg.valid.layout.column_pos
  apply Nat.div_le_of_le_mul
  rw [Nat.mul_comm, Layout.columnsPerRow]
  omega

theorem hexCellX_within : (hexCellX g n).Within (g.hexCellX n) (-0x800000) 0x800000 := by
  have hrow := hg.valid.layout.row_le
  have hcolumn := column_le_columnsPerRow hg hn
  have hbyte : n % g.layout.bytesPerColumn ≤ 4096 := Nat.le_trans (Nat.mod_le _ _) (by omega)
  exact digitLeft_within hg hcolumn
    (within_pixels (Nat.le_trans hcolumn (columnsPerRow_le hg.valid)) (by decide))
    ((within_pixels hbyte (by decide)).mul (within_self 2 (by decide)) (by decide))

theorem textCellX_within : (textCellX g n).Within (g.textCellX n) (-0x800000) 0x800000 := by
  have hrow := hg.valid.layout.row_le
  have hcharacters :=
    (within_pixels (show n ≤ 4096 by omega) (by decide)).mul (charWidth_within hg.valid) (by decide)
  have hleft := (textPaneLeft_within hg).add padding_within (by decide)
  exact (hleft.add hcharacters (by decide)).widen (by decide)

end

end

end InWords

end HexEditor
