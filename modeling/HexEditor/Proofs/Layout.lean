import HexEditor.Grid
import Mathlib.Algebra.Group.Int.Defs
import Mathlib.Algebra.Group.Nat.Defs

/-!
# Layouts and fonts that are accepted

`validate` accepts exactly the layouts and fonts whose sizes lie between fixed bounds. The bounds
are small: every count of a valid layout keeps its value as a pixel measure, and no divisor is zero.
-/

namespace HexEditor

-- ---------------------------------------------------------------------------
-- Counts as pixel measures and as words
-- ---------------------------------------------------------------------------

theorem pixels_of_lt (h : n < 2 ^ 31) : pixels n = n := by
  rw [pixels, BitVec.toInt_ofNat', Int.bmod_eq_of_le] <;> omega

theorem pixels_bounds (n : Nat) : -2 ^ 31 ≤ pixels n ∧ pixels n < 2 ^ 31 :=
  ⟨BitVec.le_toInt _, BitVec.toInt_lt⟩

theorem wrapPixels_eq (x : Int) : wrapPixels x = x - 2 ^ 32 * ((x + 2 ^ 31) / 2 ^ 32) := by
  rw [wrapPixels, BitVec.toInt_ofInt, Int.bmod_def]
  omega

theorem wrapPixels_of_mem (h : -2 ^ 31 ≤ x) (h' : x < 2 ^ 31) : wrapPixels x = x := by
  rw [wrapPixels_eq]
  omega

theorem Offset.ofInt_natCast {n : Nat} (h : n < 2 ^ 64) : Offset.ofInt n = n := by
  unfold Offset.ofInt
  omega

theorem Offset.ofInt_tdiv {d w : Nat} (h : d < 2 ^ 64) :
    Offset.ofInt ((d : Int).tdiv w) = d / w := by
  rw [← Int.ofNat_tdiv]
  exact Offset.ofInt_natCast (Nat.lt_of_le_of_lt (Nat.div_le_self d w) h)

theorem div_mod_eq_iff {n w q r : Nat} (hr : r < w) : (n / w = q ∧ n % w = r) ↔ n = q * w + r := by
  rw [Nat.div_mod_unique (by omega), Nat.add_comm, Nat.mul_comm]
  exact ⟨fun h => h.1.symm, fun h => ⟨h.symm, hr⟩⟩

theorem divUp_mul_ge (hb : 0 < b) : a ≤ divUp a b * b := by
  unfold divUp
  have hdiv := Nat.div_add_mod (a + b - 1) b
  have hmod := Nat.mod_lt (a + b - 1) hb
  rw [Nat.mul_comm] at hdiv
  omega

theorem divUp_le (hb : 0 < b) : divUp a b ≤ a := by
  unfold divUp
  rw [Nat.div_le_iff_le_mul_add_pred hb]
  have := Nat.mul_le_mul_right a hb
  omega

theorem lt_divUp_iff (hb : 0 < b) : n < divUp a b ↔ n * b < a := by
  rw [divUp, Nat.lt_iff_add_one_le, Nat.le_div_iff_mul_le hb, Nat.add_mul, Nat.one_mul]
  omega

-- ---------------------------------------------------------------------------
-- Layouts
-- ---------------------------------------------------------------------------

structure Layout.Valid (l : Layout) : Prop where
  row_pos : 0 < l.bytesPerRow
  row_le : l.bytesPerRow ≤ 4096
  column_pos : 0 < l.bytesPerColumn
  column_le : l.bytesPerColumn ≤ l.bytesPerRow
  spacing_pos : 0 < l.columnSpacing
  spacing_le : l.columnSpacing ≤ 256

theorem Layout.validate_ok {l : Layout} : l.validate = .ok () ↔ l.Valid := by
  unfold validate maxBytesPerRow maxColumnSpacing
  constructor
  · intro h
    repeat' split at h
    all_goals simp at h
    constructor <;> omega
  · rintro ⟨hr, hr', hc, hc', hs, hs'⟩
    rw [if_neg (by omega), if_neg (by omega), if_neg (by omega), if_neg (by omega),
      if_neg (by omega)]

-- ---------------------------------------------------------------------------
-- Fonts
-- ---------------------------------------------------------------------------

structure Metrics.Valid (m : Metrics) : Prop where
  width_pos : 0 < m.charWidth
  width_le : m.charWidth ≤ 256
  height_pos : 0 < m.charHeight
  height_le : m.charHeight ≤ m.rowHeight
  row_le : m.rowHeight ≤ 256

theorem Metrics.validate_ok {m : Metrics} : m.validate = .ok () ↔ m.Valid := by
  unfold validate maxSize
  constructor
  · intro h
    repeat' split at h
    all_goals simp at h
    constructor <;> omega
  · rintro ⟨hw, hw', hh, hh', hr⟩
    rw [if_neg (by omega), if_neg (by omega), if_neg (by omega)]

theorem Metrics.Valid.rowHeight_pos {m : Metrics} (hm : m.Valid) : 0 < m.rowHeight :=
  Nat.lt_of_lt_of_le hm.height_pos hm.height_le

theorem Metrics.Valid.pixels_rowHeight {m : Metrics} (hm : m.Valid) :
    pixels m.rowHeight = m.rowHeight :=
  pixels_of_lt (Nat.lt_of_le_of_lt hm.row_le (by decide))

theorem Metrics.Valid.pixels_charWidth {m : Metrics} (hm : m.Valid) :
    pixels m.charWidth = m.charWidth :=
  pixels_of_lt (Nat.lt_of_le_of_lt hm.width_le (by decide))

theorem Metrics.topPadding_ge (m : Metrics) : 16 ≤ m.topPadding :=
  Int.le_max_left 16 _

theorem Metrics.Valid.topPadding_le {m : Metrics} (hm : m.Valid) : m.topPadding ≤ 260 := by
  have hheight := Nat.le_trans hm.height_le hm.row_le
  rw [topPadding, pixels_of_lt (by omega)]
  omega

/-- The first rows have their baselines one row height below the other, as far as these are 32-bit
numbers. -/
theorem Metrics.wrapPixels_baseline {m : Metrics} {row : Nat}
    (h : m.topPadding + row * m.rowHeight < 2 ^ 31) :
    wrapPixels (m.topPadding + row * m.rowHeight) = m.topPadding + row * m.rowHeight := by
  have htop := m.topPadding_ge
  have hrows := Int.natCast_nonneg (row * m.rowHeight)
  rw [Int.natCast_mul] at hrows
  exact wrapPixels_of_mem (by omega) h

-- ---------------------------------------------------------------------------
-- Measures of a grid
-- ---------------------------------------------------------------------------

structure Grid.Valid (g : Grid) : Prop where
  layout : g.layout.Valid
  metrics : g.metrics.Valid

theorem Grid.Valid.of_validate {g : Grid} (hl : g.layout.validate = .ok ())
    (hm : g.metrics.validate = .ok ()) : g.Valid :=
  ⟨Layout.validate_ok.mp hl, Metrics.validate_ok.mp hm⟩

namespace Grid.Valid

variable {g : Grid} (hg : g.Valid)
include hg

theorem charWidth_eq : g.charWidth = g.metrics.charWidth :=
  hg.metrics.pixels_charWidth

theorem rowHeight_eq : g.rowHeight = g.metrics.rowHeight :=
  hg.metrics.pixels_rowHeight

theorem glyphHeight_eq : g.glyphHeight = g.metrics.charHeight :=
  pixels_of_lt (by have := hg.metrics.row_le; have := hg.metrics.height_le; omega)

theorem baseline_eq {row : Nat} (h : g.topPadding + row * g.metrics.rowHeight < 2 ^ 31) :
    g.baseline row = g.topPadding + row * g.rowHeight := by
  rw [hg.rowHeight_eq]
  exact Metrics.wrapPixels_baseline h

theorem rowTop_zero : g.rowTop 0 = g.topPadding - g.glyphHeight := by
  have htop := hg.metrics.topPadding_le
  have hzero : g.topPadding + (0 : Nat) * g.metrics.rowHeight < 2 ^ 31 := by
    rw [Int.natCast_zero, Int.zero_mul]
    change g.metrics.topPadding + 0 < _
    omega
  rw [Grid.rowTop, hg.baseline_eq hzero, Int.natCast_zero, Int.zero_mul, Int.add_zero]

theorem rowTop_zero_pos : 0 < g.rowTop 0 := by
  rw [hg.rowTop_zero, Grid.topPadding, Metrics.topPadding, Grid.glyphHeight]
  omega

theorem rowTop_eq {row : Nat} (h : g.topPadding + row * g.metrics.rowHeight < 2 ^ 31) :
    g.rowTop row = g.rowTop 0 + row * g.rowHeight := by
  rw [hg.rowTop_zero, Grid.rowTop, hg.baseline_eq h]
  omega

theorem charWidth_pos : 0 < g.charWidth := by
  have := hg.metrics.width_pos
  rw [hg.charWidth_eq]
  omega

theorem rowHeight_pos : 0 < g.rowHeight := by
  rw [hg.rowHeight_eq]
  exact Int.natCast_pos.mpr hg.metrics.rowHeight_pos

theorem glyphHeight_pos : 0 < g.glyphHeight := by
  have := hg.metrics.height_pos
  rw [hg.glyphHeight_eq]
  omega

theorem glyphHeight_le : g.glyphHeight ≤ g.rowHeight := by
  have := hg.metrics.height_le
  rw [hg.glyphHeight_eq, hg.rowHeight_eq]
  omega

theorem columnSize_eq :
    g.columnSize =
      (2 * g.layout.bytesPerColumn * g.metrics.charWidth + g.layout.columnSpacing : Nat) := by
  have hc : pixels g.layout.bytesPerColumn = g.layout.bytesPerColumn :=
    pixels_of_lt (by have := hg.layout.column_le; have := hg.layout.row_le; omega)
  have hs : pixels g.layout.columnSpacing = g.layout.columnSpacing :=
    pixels_of_lt (by have := hg.layout.spacing_le; omega)
  unfold Grid.columnSize
  rw [hc, hs, hg.charWidth_eq, Int.natCast_add, Int.natCast_mul, Int.natCast_mul]
  rfl

theorem hexPaneLeft_ge : -2 ^ 31 ≤ g.hexPaneLeft := by
  have hscroll : g.scrollX < 2 ^ 31 := (pixels_bounds _).2
  have hpane : 0 ≤ g.offsetPaneWidth := by
    have := Int.mul_nonneg (Int.le_of_lt hg.charWidth_pos)
      (Int.natCast_nonneg g.layout.addressWidth.digits)
    unfold Grid.offsetPaneWidth Metrics.addressColumn
    unfold Grid.charWidth at this
    omega
  unfold Grid.hexPaneLeft
  omega

theorem textPaneLeft_eq :
    g.textPaneLeft = g.hexPaneLeft + 15 + g.columnSize * g.layout.columnsPerRow := by
  have hc : pixels g.layout.columnsPerRow = g.layout.columnsPerRow := by
    have := divUp_le (a := g.layout.bytesPerRow) hg.layout.column_pos
    have := hg.layout.row_le
    exact pixels_of_lt (by unfold Layout.columnsPerRow; omega)
  unfold Grid.textPaneLeft Grid.hexPaneWidth hexPaneExtra
  rw [hc, Int.add_assoc]

end Grid.Valid

end HexEditor
