import HexEditor.Proofs.Layout

/-!
# Places of nibbles

A visible nibble is the `k`-th digit of some row. `nibbleIn` leads from row and digit to the nibble
and `visible_iff` back; the rectangles of a digit and of its character depend on the row only in
height and on the digit only in width.
-/

namespace HexEditor

namespace Grid

variable (g : Grid)

def nibbleIn (row k : Nat) : Nat :=
  2 * (g.firstByte + row * g.layout.bytesPerRow) + k

def rowOf (n : Nat) : Nat :=
  (n - 2 * g.firstByte) / (2 * g.layout.bytesPerRow)

/-- Width of a hex column with the spacing after it, as a natural number. -/
def columnWidth : Nat :=
  2 * g.layout.bytesPerColumn * g.metrics.charWidth + g.layout.columnSpacing

def digitLeft (k : Nat) : Nat :=
  k / (2 * g.layout.bytesPerColumn) * g.columnWidth +
    k % (2 * g.layout.bytesPerColumn) * g.metrics.charWidth

/-- Heights of a visible row: its glyphs and the gap under them. -/
def InRow (row : Nat) (y : Int) : Prop :=
  g.rowTop row ≤ y ∧ y < g.rowTop row + g.rowHeight

def OnDigit (k : Nat) (x : Int) : Prop :=
  g.hexPaneLeft + paddingLeft + g.digitLeft k ≤ x ∧
    x < g.hexPaneLeft + paddingLeft + g.digitLeft k + g.charWidth

def OnChar (n : Nat) (x : Int) : Prop :=
  g.textCellX n ≤ x ∧ x < g.textCellX n + g.charWidth

variable {g}

-- ---------------------------------------------------------------------------
-- Rows and digits
-- ---------------------------------------------------------------------------

theorem nibbleIn_shown (row k : Nat) :
    g.nibbleIn row k - 2 * g.firstByte = row * (2 * g.layout.bytesPerRow) + k := by
  unfold nibbleIn
  rw [Nat.mul_add, Nat.mul_left_comm row]
  omega

theorem nibbleIn_div_mod (row : Nat) (hk : k < 2 * g.layout.bytesPerRow) :
    g.rowOf (g.nibbleIn row k) = row ∧
      (g.nibbleIn row k - 2 * g.firstByte) % (2 * g.layout.bytesPerRow) = k :=
  (div_mod_eq_iff hk).mpr (nibbleIn_shown row k)

theorem nibbleIn_half (row k : Nat) :
    g.nibbleIn row k % 2 = k % 2 ∧ 2 * (g.nibbleIn row k / 2) = g.nibbleIn row (2 * (k / 2)) := by
  unfold nibbleIn
  omega

theorem nibbleIn_visible (hrow : row < g.visibleRows) (hk : k < 2 * g.layout.bytesPerRow) :
    g.NibbleVisible (g.nibbleIn row k) := by
  have hrows := Nat.mul_le_mul_right g.layout.bytesPerRow hrow
  rw [Nat.succ_mul] at hrows
  unfold NibbleVisible capacity nibbleIn
  omega

theorem visible_iff (hr : 0 < g.layout.bytesPerRow) :
    g.NibbleVisible n ↔
      ∃ row < g.visibleRows, ∃ k < 2 * g.layout.bytesPerRow, n = g.nibbleIn row k := by
  constructor
  · rintro ⟨hlow, hhigh⟩
    have hmod := Nat.mod_lt (n - 2 * g.firstByte) (show 0 < 2 * g.layout.bytesPerRow by omega)
    refine ⟨g.rowOf n, ?_, _, hmod, ?_⟩
    · rw [rowOf, Nat.div_lt_iff_lt_mul (by omega), Nat.mul_left_comm]
      unfold capacity at hhigh
      omega
    · have hdiv := (div_mod_eq_iff hmod).mp ⟨rfl, rfl⟩
      have hshown := nibbleIn_shown (g := g) (g.rowOf n)
        ((n - 2 * g.firstByte) % (2 * g.layout.bytesPerRow))
      unfold nibbleIn rowOf at hshown ⊢
      omega
  · rintro ⟨row, hrow, k, hk, rfl⟩
    exact nibbleIn_visible hrow hk

theorem nibbleVisible_iff (hr : 0 < g.layout.bytesPerRow) :
    g.NibbleVisible n ↔
      g.firstRow ≤ n / (2 * g.layout.bytesPerRow) ∧
        n / (2 * g.layout.bytesPerRow) < g.firstRow + g.visibleRows := by
  have hrow : 0 < 2 * g.layout.bytesPerRow := by omega
  rw [Nat.le_div_iff_mul_le hrow, Nat.div_lt_iff_lt_mul hrow, Nat.add_mul, Nat.mul_left_comm,
    Nat.mul_left_comm g.visibleRows]
  rfl

-- ---------------------------------------------------------------------------
-- Digits within a row
-- ---------------------------------------------------------------------------

theorem digitLeft_column (column : Nat) (hm : m < 2 * g.layout.bytesPerColumn) :
    g.digitLeft (2 * (column * g.layout.bytesPerColumn) + m) =
      column * g.columnWidth + m * g.metrics.charWidth := by
  obtain ⟨hq, hr⟩ := (div_mod_eq_iff (q := column) hm).mpr
    (show 2 * (column * g.layout.bytesPerColumn) + m = column * (2 * g.layout.bytesPerColumn) + m by
      rw [Nat.mul_left_comm])
  rw [digitLeft, hq, hr]

theorem digitLeft_low (hc : 0 < g.layout.bytesPerColumn) (n : Nat) :
    g.digitLeft (2 * n + 1) = g.digitLeft (2 * n) + g.metrics.charWidth := by
  have hmod := Nat.mod_lt n hc
  have hsplit := Nat.div_add_mod' n g.layout.bytesPerColumn
  have hhigh := digitLeft_column (n / g.layout.bytesPerColumn)
    (show 2 * (n % g.layout.bytesPerColumn) < 2 * g.layout.bytesPerColumn by omega)
  have hlow := digitLeft_column (n / g.layout.bytesPerColumn)
    (show 2 * (n % g.layout.bytesPerColumn) + 1 < 2 * g.layout.bytesPerColumn by omega)
  rw [← Nat.mul_add, hsplit] at hhigh
  rw [← Nat.add_assoc, ← Nat.mul_add, hsplit] at hlow
  rw [hhigh, hlow, Nat.succ_mul, Nat.add_assoc]

theorem digitLeft_add_le (hc : 0 < g.layout.bytesPerColumn) (k : Nat) :
    g.digitLeft k + g.metrics.charWidth + g.layout.columnSpacing ≤
      (k / (2 * g.layout.bytesPerColumn) + 1) * g.columnWidth := by
  have hmod := Nat.mod_lt k (show 0 < 2 * g.layout.bytesPerColumn by omega)
  have hdigits := Nat.mul_le_mul_right g.metrics.charWidth hmod
  have hwidth : g.columnWidth =
      2 * g.layout.bytesPerColumn * g.metrics.charWidth + g.layout.columnSpacing := rfl
  rw [Nat.succ_mul] at hdigits
  rw [digitLeft, Nat.add_mul, Nat.one_mul]
  omega

-- ---------------------------------------------------------------------------
-- Rectangles
-- ---------------------------------------------------------------------------

theorem textBounds_nibbleIn (hrow : row < g.visibleRows) (hk : k < 2 * g.layout.bytesPerRow) :
    g.textBounds (g.nibbleIn row k) =
      ⟨g.textCellX (k / 2), g.rowTop row, g.charWidth, g.glyphHeight⟩ := by
  have hshown : (g.nibbleIn row k - 2 * g.firstByte) / 2 = row * g.layout.bytesPerRow + k / 2 := by
    rw [nibbleIn_shown, Nat.mul_left_comm]
    omega
  obtain ⟨hq, hr⟩ := (div_mod_eq_iff (show k / 2 < g.layout.bytesPerRow by omega)).mpr hshown
  rw [textBounds, if_pos (nibbleIn_visible hrow hk)]
  simp only [hq, hr]

namespace Valid

variable (hg : g.Valid)
include hg

/-- The digit that covers a pixel is found by dividing by the widths of a column and of a
character. -/
theorem digitLeft_iff (d k : Nat) :
    (g.digitLeft k ≤ d ∧ d < g.digitLeft k + g.metrics.charWidth) ↔
      d / g.columnWidth = k / (2 * g.layout.bytesPerColumn) ∧
        d % g.columnWidth / g.metrics.charWidth = k % (2 * g.layout.bytesPerColumn) := by
  have hwidth := hg.metrics.width_pos
  have hspacing := hg.layout.spacing_pos
  have hin := digitLeft_add_le hg.layout.column_pos k
  rw [Nat.succ_mul] at hin
  unfold digitLeft at hin ⊢
  generalize k / (2 * g.layout.bytesPerColumn) = column at *
  generalize k % (2 * g.layout.bytesPerColumn) = digit at *
  constructor
  · rintro ⟨hlow, hhigh⟩
    obtain ⟨hq, hr⟩ := (div_mod_eq_iff (n := d) (q := column)
      (show d - column * g.columnWidth < g.columnWidth by omega)).mpr (by omega)
    refine ⟨hq, ?_⟩
    rw [hr, Nat.div_eq_iff hwidth]
    omega
  · rintro ⟨rfl, rfl⟩
    have hsplit := Nat.div_add_mod' d g.columnWidth
    have hsplit' := Nat.div_add_mod' (d % g.columnWidth) g.metrics.charWidth
    have hrest := Nat.mod_lt (d % g.columnWidth) hwidth
    omega

theorem digitLeft_lt (hk : k < 2 * g.layout.bytesPerRow) :
    g.hexPaneLeft + paddingLeft + g.digitLeft k + g.metrics.charWidth < g.textPaneLeft := by
  have hc := hg.layout.column_pos
  have hcolumn : k / (2 * g.layout.bytesPerColumn) < g.layout.columnsPerRow := by
    have := divUp_mul_ge (a := g.layout.bytesPerRow) hc
    rw [Nat.div_lt_iff_lt_mul (by omega), Nat.mul_left_comm]
    unfold Layout.columnsPerRow
    omega
  have hdigit : g.digitLeft k + g.metrics.charWidth + g.layout.columnSpacing ≤
      g.layout.columnsPerRow * g.columnWidth :=
    Nat.le_trans (digitLeft_add_le hc k) (Nat.mul_le_mul_right _ hcolumn)
  have hcast : g.columnSize * g.layout.columnsPerRow =
      (g.layout.columnsPerRow * g.columnWidth : Nat) := by
    rw [hg.columnSize_eq, ← Int.natCast_mul, Nat.mul_comm, columnWidth]
  rw [hg.textPaneLeft_eq, hcast, paddingLeft]
  omega

theorem nibbleBounds_nibbleIn (hrow : row < g.visibleRows) (hk : k < 2 * g.layout.bytesPerRow) :
    g.nibbleBounds (g.nibbleIn row k) =
      ⟨g.hexPaneLeft + paddingLeft + g.digitLeft k, g.rowTop row, g.charWidth, g.glyphHeight⟩ := by
  obtain ⟨hq, hr⟩ := nibbleIn_div_mod (g := g) row hk
  unfold rowOf at hq
  have hc := hg.layout.column_pos
  have hle := hg.layout.row_le
  have hcolumn : pixels (k / (2 * g.layout.bytesPerColumn)) =
    (k / (2 * g.layout.bytesPerColumn) : Nat) :=
    pixels_of_lt (by have := Nat.div_le_self k (2 * g.layout.bytesPerColumn); omega)
  have hdigit : pixels (k % (2 * g.layout.bytesPerColumn)) =
    (k % (2 * g.layout.bytesPerColumn) : Nat) :=
    pixels_of_lt (by have := Nat.mod_le k (2 * g.layout.bytesPerColumn); omega)
  rw [nibbleBounds, if_pos (nibbleIn_visible hrow hk)]
  simp only [hq, hr, hcolumn, hdigit, hg.columnSize_eq, hg.charWidth_eq, digitLeft, columnWidth,
    Int.natCast_add, Int.natCast_mul, Int.add_assoc]

theorem hexCellX_eq (hn : n < g.layout.bytesPerRow) :
    g.hexCellX n = g.hexPaneLeft + paddingLeft + g.digitLeft (2 * n) := by
  have hle := hg.layout.row_le
  have hcolumn : pixels (n / g.layout.bytesPerColumn) = (n / g.layout.bytesPerColumn : Nat) :=
    pixels_of_lt (by have := Nat.div_le_self n g.layout.bytesPerColumn; omega)
  have hbyte : pixels (n % g.layout.bytesPerColumn) = (n % g.layout.bytesPerColumn : Nat) :=
    pixels_of_lt (by have := Nat.mod_le n g.layout.bytesPerColumn; omega)
  rw [digitLeft, Nat.mul_div_mul_left _ _ (by omega), Nat.mul_mod_mul_left, hexCellX, hcolumn,
    hbyte,
    hg.columnSize_eq, hg.charWidth_eq, columnWidth]
  simp only [Int.natCast_add, Int.natCast_mul, Int.add_assoc, Int.mul_comm 2, Int.cast_ofNat_Int]

theorem textCellX_eq (hn : n < g.layout.bytesPerRow) :
    g.textCellX n = g.textPaneLeft + paddingLeft + (n * g.metrics.charWidth : Nat) := by
  have hle := hg.layout.row_le
  rw [textCellX, pixels_of_lt (by omega), hg.charWidth_eq, Int.natCast_mul]

end Valid

end Grid

end HexEditor
