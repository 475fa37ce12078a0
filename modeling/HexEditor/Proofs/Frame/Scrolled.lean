import HexEditor.Proofs.Frame.Content
import Mathlib.Data.Int.ModEq

/-!
# Scrolled frames

Scrolling moves the picture and changes nothing in it. `cells_scrolled` compares the frames of one
buffer that are seen through two cutouts: a position that both show has the same byte, text and
style in both, and its cells are moved by as many characters and rows as the cutouts are.

A coordinate is a 32-bit number. The distances are exact as long as the measures of both frames fit
into one, and exact modulo `2 ^ 32` in any case: `cells_scrolled_around` moves a cell to the right
by scrolling to the right.
-/

namespace HexEditor

theorem pixels_modEq (n : Nat) : pixels n ≡ n [ZMOD 2 ^ 32] := by
  rw [pixels, BitVec.toInt_ofNat']
  exact Int.bmod_emod

theorem wrapPixels_modEq (x : Int) : wrapPixels x ≡ x [ZMOD 2 ^ 32] := by
  rw [wrapPixels, BitVec.toInt_ofInt]
  exact Int.bmod_emod

def Rect.translate (r : Rect) (dx dy : Int) : Rect :=
  { r with x := r.x + dx, y := r.y + dy }

def Cell.moved (c : Cell) (dx dy : Int) : Cell :=
  { c with x := c.x + dx, baseline := c.baseline + dy, bounds := c.bounds.translate dx dy }

/-- The part of the grid that is on screen. -/
structure Cutout where
  firstRow : Nat := 0
  firstColumn : Nat := 0
  rows : Nat

namespace Scene

/-- A colormap that knows the classes of bytes only. -/
def ColorsClasses (s : Scene) : Prop :=
  ∀ colors ∈ s.colormap, ∃ zero printable full, colors = .byClass zero printable full

def look (s : Scene) (b : UInt8) (position offset : Nat) (fallback : Color) : CellStyle :=
  if ¬ s.enabled then s.disabledStyle
  else if s.selection.Selects position then ⟨fallback, some s.palette.selection, true⟩
  else
    match s.layers.find? offset with
    | some h => ⟨h.foreground.getD fallback, h.background, false⟩
    | none =>
      match s.colormap.bind fun colors => colors #[b] 0 with
      | some (foreground, background) => ⟨foreground.getD fallback, background, false⟩
      | none => ⟨fallback, none, false⟩

theorem cellStyle_eq_look {s : Scene} (hcolors : s.ColorsClasses) (hb : s.byteAt? offset = some b)
    (position : Nat) (fallback : Color) :
    s.cellStyle position offset fallback = s.look b position offset fallback := by
  cases hdata : s.data with
  | none => simp [byteAt?, hdata] at hb
  | some data =>
    have hindex : data[offset - s.grid.firstByte]? = some b := by simpa [byteAt?, hdata] using hb
    have hcolor : (s.colormap.bind fun colors => colors data (offset - s.grid.firstByte)) =
        s.colormap.bind fun colors => colors #[b] 0 := by
      cases hmap : s.colormap with
      | none => rfl
      | some colors =>
        obtain ⟨zero, printable, full, rfl⟩ := hcolors colors hmap
        simp [Colormap.byClass, hindex]
    cases henabled : s.enabled with
    | false => simp [cellStyle, look, hdata, hb, henabled]
    | true =>
      simp only [cellStyle, look, style, hdata, hb, henabled, hcolor]
      rfl

/-- The scene with the part of the bytes that is seen through a cutout. -/
def through (s : Scene) (bytes : Bytes) (w : Cutout) : Scene :=
  let grid := { s.grid with
    length := bytes.size
    firstRow := w.firstRow
    firstColumn := w.firstColumn
    visibleRows := w.rows }
  { s with grid, data := some (bytes.extract grid.firstByte (grid.firstByte + grid.shownBytes)) }

section
variable (s : Scene) (bytes : Bytes) (v w : Cutout)

-- These are told by layout, font and length.

theorem layout_through : (s.through bytes w).grid.layout = s.grid.layout := rfl

theorem glyphHeight_through : (s.through bytes w).grid.glyphHeight = s.grid.glyphHeight := rfl

theorem charWidth_through : (s.through bytes w).grid.charWidth = s.grid.charWidth := rfl

theorem flip_through (p : Nat) :
    (s.through bytes v).grid.flip p = (s.through bytes w).grid.flip p := rfl

-- ---------------------------------------------------------------------------
-- Places
-- ---------------------------------------------------------------------------

theorem place_through (hr : 0 < s.grid.layout.bytesPerRow) (i : Nat) :
    ((s.through bytes w).grid.firstByte + i) % s.grid.layout.bytesPerRow =
    i % s.grid.layout.bytesPerRow ∧
      ((s.through bytes w).grid.firstByte + i) / s.grid.layout.bytesPerRow =
      w.firstRow + i / s.grid.layout.bytesPerRow := by
  change (w.firstRow * s.grid.layout.bytesPerRow + i) % _ = _ ∧
    (w.firstRow * s.grid.layout.bytesPerRow + i) / _ = _
  rw [Nat.add_comm, Nat.add_mul_mod_self_right, Nat.add_mul_div_right _ _ hr,
    Nat.add_comm w.firstRow]
  exact ⟨rfl, rfl⟩

theorem hexCellX_through (n : Nat) :
    (s.through bytes w).grid.hexCellX n + (s.through bytes w).grid.scrollX =
    s.grid.hexCellX n + s.grid.scrollX := by
  simp only [Grid.hexCellX, Grid.hexPaneLeft]
  change s.grid.offsetPaneWidth - _ + _ +
    pixels (n / s.grid.layout.bytesPerColumn) * s.grid.columnSize +
    pixels (n % s.grid.layout.bytesPerColumn) * 2 * s.grid.charWidth + _ = _
  omega

theorem textCellX_through (n : Nat) :
    (s.through bytes w).grid.textCellX n + (s.through bytes w).grid.scrollX =
    s.grid.textCellX n + s.grid.scrollX := by
  simp only [Grid.textCellX, Grid.textPaneLeft, Grid.hexPaneLeft]
  change s.grid.offsetPaneWidth - _ + s.grid.hexPaneWidth + _ + pixels n * s.grid.charWidth + _ = _
  omega

section
variable (hm : s.grid.metrics.Valid)
include hm

theorem scrollX_through :
    (s.through bytes v).grid.scrollX - (s.through bytes w).grid.scrollX ≡
        (v.firstColumn - w.firstColumn) * s.grid.charWidth [ZMOD 2 ^ 32] ∧
      ((s.through bytes v).grid.PixelsFit → (s.through bytes w).grid.PixelsFit →
        (s.through bytes v).grid.scrollX - (s.through bytes w).grid.scrollX =
          (v.firstColumn - w.firstColumn) * s.grid.charWidth) := by
  have hdistance : ((v.firstColumn - w.firstColumn) * s.grid.charWidth : Int) =
      (v.firstColumn * s.grid.metrics.charWidth : Nat) -
        (w.firstColumn * s.grid.metrics.charWidth : Nat) := by
    rw [Grid.charWidth, hm.pixels_charWidth, Int.sub_mul, Int.natCast_mul, Int.natCast_mul]
  rw [hdistance]
  refine ⟨(pixels_modEq _).sub (pixels_modEq _), fun hv hw => ?_⟩
  exact congrArg₂ (· - ·) (pixels_of_lt hv.scroll) (pixels_of_lt hw.scroll)

theorem baseline_through (h : v.firstRow + r = w.firstRow + q) :
    (s.through bytes w).grid.baseline q - (s.through bytes v).grid.baseline r ≡
        (v.firstRow - w.firstRow) * s.grid.rowHeight [ZMOD 2 ^ 32] ∧
      (s.grid.topPadding + r * s.grid.metrics.rowHeight < 2 ^ 31 →
        s.grid.topPadding + q * s.grid.metrics.rowHeight < 2 ^ 31 →
        (s.through bytes w).grid.baseline q - (s.through bytes v).grid.baseline r =
          (v.firstRow - w.firstRow) * s.grid.rowHeight) := by
  have hrows : (v.firstRow - w.firstRow : Int) = q - r := by omega
  have hdistance : ((v.firstRow - w.firstRow) * s.grid.rowHeight : Int) =
      s.grid.topPadding + q * s.grid.metrics.rowHeight -
        (s.grid.topPadding + r * s.grid.metrics.rowHeight) := by
    rw [hrows, Grid.rowHeight, hm.pixels_rowHeight, Int.add_sub_add_left, Int.sub_mul]
  rw [hdistance]
  refine ⟨(wrapPixels_modEq _).sub (wrapPixels_modEq _), fun hr hq => ?_⟩
  exact congrArg₂ (· - ·) (Metrics.wrapPixels_baseline hq) (Metrics.wrapPixels_baseline hr)

end

end

-- ---------------------------------------------------------------------------
-- Cells
-- ---------------------------------------------------------------------------

variable {s : Scene} {bytes : Bytes} {v w : Cutout}

section
variable (hl : s.grid.layout.Valid) (hcolors : s.ColorsClasses)
  (hi : i < (s.through bytes v).grid.shownBytes) (hp : (s.through bytes v).grid.firstByte + i = p)
  (hj : j < (s.through bytes w).grid.shownBytes) (hp' : (s.through bytes w).grid.firstByte + j = p)

include hl hp hp' in
theorem column_through : i % s.grid.layout.bytesPerRow = j % s.grid.layout.bytesPerRow := by
  rw [← (s.place_through bytes v hl.row_pos i).1, ← (s.place_through bytes w hl.row_pos j).1,
    hp, hp']

include hl hcolors hi hp hj hp'

theorem byte_through :
    ∃ b, (s.through bytes v).byteAt? ((s.through bytes v).grid.flip p) = some b ∧
      (s.through bytes w).byteAt? ((s.through bytes v).grid.flip p) = some b ∧
      ∀ fallback, (s.through bytes w).cellStyle p ((s.through bytes v).grid.flip p) fallback =
        (s.through bytes v).cellStyle p ((s.through bytes v).grid.flip p) fallback := by
  have hshown : p ∈ (s.through bytes v).grid.shownPositions := by
    rw [Grid.shownPositions, List.mem_range'_1]
    omega
  have hshown' : p ∈ (s.through bytes w).grid.shownPositions := by
    rw [Grid.shownPositions, List.mem_range'_1]
    omega
  obtain ⟨b, hb, hbyte⟩ := byteAt?_flip (s := s.through bytes v) hl rfl rfl hshown
  obtain ⟨b', hb', hbyte'⟩ := byteAt?_flip (s := s.through bytes w) hl rfl rfl hshown'
  obtain rfl : b = b' := Option.some.inj (hb.symm.trans hb')
  rw [s.flip_through bytes w v] at hbyte'
  refine ⟨b, hbyte, hbyte', fun fallback => ?_⟩
  rw [cellStyle_eq_look (s := s.through bytes v) hcolors hbyte,
    cellStyle_eq_look (s := s.through bytes w) hcolors hbyte']
  rfl

theorem hexCell_through :
    (s.through bytes w).hexCell j = ((s.through bytes v).hexCell i).moved
      ((s.through bytes v).grid.scrollX - (s.through bytes w).grid.scrollX)
      ((s.through bytes w).grid.baseline (j / s.grid.layout.bytesPerRow) -
        (s.through bytes v).grid.baseline (i / s.grid.layout.bytesPerRow)) := by
  obtain ⟨b, hbyte, hbyte', hstyle⟩ := byte_through hl hcolors hi hp hj hp'
  have hx := s.hexCellX_through bytes v (j % s.grid.layout.bytesPerRow)
  have hx' := s.hexCellX_through bytes w (j % s.grid.layout.bytesPerRow)
  have hcolor (n : Nat) : (s.through bytes w).hexColor n = (s.through bytes v).hexColor n := rfl
  simp only [hexCell, Cell.moved, Rect.translate, Cell.mk.injEq, Rect.mk.injEq, layout_through,
    glyphHeight_through,
    charWidth_through, s.flip_through bytes w v, hp, hp', column_through hl hp hp', hbyte, hbyte',
      hstyle, hcolor, true_and, and_true]
  omega

theorem textCell_through :
    (s.through bytes w).textCell j = ((s.through bytes v).textCell i).moved
      ((s.through bytes v).grid.scrollX - (s.through bytes w).grid.scrollX)
      ((s.through bytes w).grid.baseline (j / s.grid.layout.bytesPerRow) -
        (s.through bytes v).grid.baseline (i / s.grid.layout.bytesPerRow)) := by
  obtain ⟨b, hbyte, hbyte', hstyle⟩ := byte_through hl hcolors hi hp hj hp'
  have hx := s.textCellX_through bytes v (j % s.grid.layout.bytesPerRow)
  have hx' := s.textCellX_through bytes w (j % s.grid.layout.bytesPerRow)
  have hcolor : (s.through bytes w).palette = (s.through bytes v).palette := rfl
  simp only [textCell, Cell.moved, Rect.translate, Cell.mk.injEq, Rect.mk.injEq, layout_through,
    glyphHeight_through,
    charWidth_through, s.flip_through bytes w v, hp, hp', column_through hl hp hp', hbyte, hbyte',
      hstyle, hcolor, true_and, and_true]
  omega

end

-- ---------------------------------------------------------------------------
-- Frames
-- ---------------------------------------------------------------------------

theorem exists_shown_through (hr : 0 < s.grid.layout.bytesPerRow) (hp : p < bytes.size) :
    (∃ i < (s.through bytes w).grid.shownBytes, (s.through bytes w).grid.firstByte + i = p) ↔
      w.firstRow ≤ p / s.grid.layout.bytesPerRow ∧
        p / s.grid.layout.bytesPerRow < w.firstRow + w.rows := by
  have hfirst : (s.through bytes w).grid.firstByte = w.firstRow * s.grid.layout.bytesPerRow := rfl
  have hcapacity : (s.through bytes w).grid.capacity = w.rows * s.grid.layout.bytesPerRow := rfl
  have hlength : (s.through bytes w).grid.length = bytes.size := rfl
  rw [Nat.le_div_iff_mul_le hr, Nat.div_lt_iff_lt_mul hr, Nat.add_mul, ← hfirst, ← hcapacity]
  simp only [Grid.lt_shownBytes, hlength]
  constructor
  · rintro ⟨i, hi, rfl⟩
    omega
  · intro hrows
    exact ⟨p - (s.through bytes w).grid.firstByte, by omega, by omega⟩

theorem cell_through (hl : s.grid.layout.Valid) (hcolors : s.ColorsClasses)
    (hc : c ∈ (s.through bytes v).cells) (hd : d ∈ (s.through bytes w).cells)
    (hpane : d.pane = c.pane) (hposition : d.position = c.position) :
    ∃ i < (s.through bytes v).grid.shownBytes, ∃ j < (s.through bytes w).grid.shownBytes,
      v.firstRow + i / s.grid.layout.bytesPerRow = w.firstRow + j / s.grid.layout.bytesPerRow ∧
        d = c.moved ((s.through bytes v).grid.scrollX - (s.through bytes w).grid.scrollX)
          ((s.through bytes w).grid.baseline (j / s.grid.layout.bytesPerRow) -
            (s.through bytes v).grid.baseline (i / s.grid.layout.bytesPerRow)) := by
  obtain ⟨i, hi, hcell⟩ := mem_cells.mp hc
  obtain ⟨j, hj, hcell'⟩ := mem_cells.mp hd
  have hp := position_of_cell hcell
  have hp' := (position_of_cell hcell').trans hposition
  refine ⟨i, hi, j, hj, ?_, ?_⟩
  · have hrow := (s.place_through bytes v hl.row_pos i).2
    have hrow' := (s.place_through bytes w hl.row_pos j).2
    rw [hp] at hrow
    rw [hp'] at hrow'
    exact hrow.symm.trans hrow'
  · rcases hcell with rfl | rfl <;> rcases hcell' with rfl | rfl
    · exact hexCell_through hl hcolors hi hp hj hp'
    · cases hpane
    · cases hpane
    · exact textCell_through hl hcolors hi hp hj hp'

end Scene

end HexEditor
