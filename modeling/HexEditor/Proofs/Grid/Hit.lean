import HexEditor.Grid
import HexEditor.Proofs.Grid.Place

/-!
# Points and nibbles

`nibbleAt?_eq_some_iff`: the nibble under a point is the one whose row has the height of the point
and whose digit, or whose character if it is a high nibble, has its width. So a point in the
rectangle of a digit leads back to the digit, and a point in the rectangle of a character to the
high nibble of its byte.

Coordinates are 32-bit numbers. The baselines of the rows that are drawn are taken to be such
numbers too, that is, not to wrap around.
-/

namespace HexEditor.Grid

/-- No row that shows a byte lies so low that its baseline is no 32-bit number. -/
def BaselinesFit (g : Grid) : Prop :=
  ∀ row < g.visibleRows, g.firstByte + row * g.layout.bytesPerRow < g.length →
    g.topPadding + row * g.metrics.rowHeight < 2 ^ 31

instance (g : Grid) : Decidable g.BaselinesFit :=
  inferInstanceAs (Decidable (∀ row < g.visibleRows, _))

variable {g : Grid}

namespace Valid

variable (hg : g.Valid)
include hg

-- ---------------------------------------------------------------------------
-- Rows
-- ---------------------------------------------------------------------------

theorem rowAt?_eq_some_iff (hy : y < 2 ^ 31) :
    g.rowAt? y = some row ↔
      row < g.visibleRows ∧ g.rowTop 0 + row * g.rowHeight ≤ y ∧
        y < g.rowTop 0 + row * g.rowHeight + g.rowHeight := by
  have htop := hg.rowTop_zero_pos
  have hheight := hg.rowHeight_pos
  rw [hg.rowHeight_eq] at hheight ⊢
  unfold rowAt?
  split
  · have := Int.mul_nonneg (Int.natCast_nonneg row) (Int.le_of_lt hheight)
    refine ⟨fun h => absurd h.symm (Option.some_ne_none _), fun h => ?_⟩
    omega
  · rename_i hlow
    obtain ⟨d, hd⟩ := Int.eq_ofNat_of_zero_le (show 0 ≤ y - g.rowTop 0 by omega)
    have hrow : Offset.ofInt ((y - g.rowTop 0).tdiv g.rowHeight) = d / g.metrics.rowHeight := by
      rw [hd, hg.rowHeight_eq]
      exact Offset.ofInt_tdiv (by omega)
    have hdiv : d / g.metrics.rowHeight = row ↔
        row * g.metrics.rowHeight ≤ d ∧ d < row * g.metrics.rowHeight + g.metrics.rowHeight := by
      rw [Nat.div_eq_iff (by omega)]
      omega
    simp only [hrow]
    split
    · simp only [Option.some.injEq]
      omega
    · refine ⟨fun h => absurd h.symm (Option.some_ne_none _), fun h => ?_⟩
      omega

-- ---------------------------------------------------------------------------
-- Digits and characters of a row
-- ---------------------------------------------------------------------------

theorem hexNibbleAt?_eq_some_iff {d : Nat} (hd : d < 2 ^ 64) :
    g.hexNibbleAt? d = some k ↔
      k < 2 * g.layout.bytesPerRow ∧ g.digitLeft k ≤ d ∧
        d < g.digitLeft k + g.metrics.charWidth := by
  have hc := hg.layout.column_pos
  have hcolumn : Offset.ofInt ((d : Int).tdiv g.columnSize) = d / g.columnWidth := by
    rw [hg.columnSize_eq]
    exact Offset.ofInt_tdiv hd
  have hdigit : Offset.ofInt (((d : Int).tmod g.columnSize).tdiv g.charWidth) =
      d % g.columnWidth / g.metrics.charWidth := by
    rw [hg.columnSize_eq, hg.charWidth_eq, ← Int.ofNat_tmod]
    exact Offset.ofInt_tdiv (Nat.lt_of_le_of_lt (Nat.mod_le _ _) hd)
  rw [hg.digitLeft_iff]
  unfold hexNibbleAt?
  simp only [hcolumn, hdigit]
  generalize d / g.columnWidth = column
  generalize d % g.columnWidth / g.metrics.charWidth = digit
  constructor
  · intro h
    split at h
    · simp at h
    split at h
    · simp at h
    rename_i hin hrow
    simp only [Option.some.injEq] at h
    obtain ⟨hq, hr⟩ := (div_mod_eq_iff (n := k) (q := column) (Nat.lt_of_not_le hin)).mpr
      (by rw [← h, Nat.mul_left_comm])
    exact ⟨by omega, hq.symm, hr.symm⟩
  · rintro ⟨hk, rfl, rfl⟩
    have hmod := Nat.mod_lt k (show 0 < 2 * g.layout.bytesPerColumn by omega)
    have hsplit := Nat.div_add_mod' k (2 * g.layout.bytesPerColumn)
    rw [Nat.mul_left_comm] at hsplit
    rw [if_neg (by omega), if_neg (by omega), hsplit]

theorem textNibbleAt?_eq_some_iff {d : Nat} (hd : d < 2 ^ 64) :
    g.textNibbleAt? d = some k ↔
      k < 2 * g.layout.bytesPerRow ∧ k % 2 = 0 ∧ k / 2 * g.metrics.charWidth ≤ d ∧
        d < k / 2 * g.metrics.charWidth + g.metrics.charWidth := by
  have hwidth := hg.metrics.width_pos
  have hchar : Offset.ofInt ((d : Int).tdiv g.charWidth) = d / g.metrics.charWidth := by
    rw [hg.charWidth_eq]
    exact Offset.ofInt_tdiv hd
  have hdiv : d / g.metrics.charWidth = k / 2 ↔
      k / 2 * g.metrics.charWidth ≤ d ∧ d < k / 2 * g.metrics.charWidth + g.metrics.charWidth := by
    rw [Nat.div_eq_iff hwidth]
    omega
  unfold textNibbleAt?
  rw [if_neg (by omega), ← hdiv]
  simp only [hchar]
  split
  · refine ⟨fun h => absurd h.symm (Option.some_ne_none _), fun h => ?_⟩
    omega
  · simp only [Option.some.injEq]
    omega

theorem rowNibbleAt?_eq_some_iff (hx : x < 2 ^ 31) :
    g.rowNibbleAt? x = some k ↔
      k < 2 * g.layout.bytesPerRow ∧ (g.OnDigit k x ∨ k % 2 = 0 ∧ g.OnChar (k / 2) x) := by
  have hleft := hg.hexPaneLeft_ge
  have htext := hg.digitLeft_lt (k := 0) (by have := hg.layout.row_pos; omega)
  have hdigit := fun h => hg.digitLeft_lt (k := k) h
  have hchar := fun h => hg.textCellX_eq (n := k / 2) h
  simp only [OnDigit, OnChar, hg.charWidth_eq, paddingLeft] at htext hdigit hchar ⊢
  unfold rowNibbleAt? paddingLeft
  split
  · refine ⟨fun h => absurd h.symm (Option.some_ne_none _), ?_⟩
    rintro ⟨hk, h⟩
    have := hdigit hk
    have := hchar (by omega)
    omega
  split
  · obtain ⟨d, hd⟩ := Int.eq_ofNat_of_zero_le (show 0 ≤ x - (g.hexPaneLeft + 10) by omega)
    rw [hd, hg.hexNibbleAt?_eq_some_iff (by omega)]
    refine and_congr_right fun hk => ?_
    have := hchar (by omega)
    omega
  · by_cases hlow : x < g.textPaneLeft + 10
    · rw [textNibbleAt?, if_pos (by omega)]
      refine ⟨fun h => absurd h.symm (Option.some_ne_none _), ?_⟩
      rintro ⟨hk, h⟩
      have := hdigit hk
      have := hchar (by omega)
      omega
    · obtain ⟨d, hd⟩ := Int.eq_ofNat_of_zero_le (show 0 ≤ x - (g.textPaneLeft + 10) by omega)
      rw [hd, hg.textNibbleAt?_eq_some_iff (by omega)]
      refine and_congr_right fun hk => ?_
      have := hdigit hk
      have := hchar (by omega)
      omega

end Valid

-- ---------------------------------------------------------------------------
-- Nibbles
-- ---------------------------------------------------------------------------

theorem nibbleAt?_parts :
    g.nibbleAt? x y = some n ↔
      n < 2 * g.length ∧ ∃ row k, g.rowAt? y = some row ∧ g.rowNibbleAt? x = some k ∧
        n = g.nibbleIn row k := by
  unfold nibbleAt? nibbleIn
  simp only [Option.bind_eq_bind, Option.bind_eq_some_iff]
  constructor
  · rintro ⟨row, hrow, k, hk, h⟩
    split at h
    · cases h
      exact ⟨‹_›, row, k, hrow, hk, rfl⟩
    · simp at h
  · rintro ⟨hlt, row, k, hrow, hk, rfl⟩
    exact ⟨row, hrow, k, hk, if_pos hlt⟩

/-- The place of a nibble: its row has the height of the point, and its digit or its character has
the width. -/
theorem Valid.nibbleAt?_place (hg : g.Valid) (hfit : g.BaselinesFit) (hx : x < 2 ^ 31)
    (hy : y < 2 ^ 31) :
    g.nibbleAt? x y = some n ↔
      n < 2 * g.length ∧ ∃ row < g.visibleRows, ∃ k < 2 * g.layout.bytesPerRow,
        n = g.nibbleIn row k ∧ g.InRow row y ∧
          (g.OnDigit k x ∨ k % 2 = 0 ∧ g.OnChar (k / 2) x) := by
  simp only [nibbleAt?_parts, hg.rowAt?_eq_some_iff hy, hg.rowNibbleAt?_eq_some_iff hx]
  refine and_congr_right fun hn => ?_
  -- Both sides name the same row, and its top does not wrap around.
  have htop : ∀ row < g.visibleRows, ∀ k, n = g.nibbleIn row k →
      g.rowTop row = g.rowTop 0 + row * g.rowHeight := by
    intro row hrow k hk
    unfold nibbleIn at hk
    exact hg.rowTop_eq (hfit row hrow (by omega))
  constructor
  · rintro ⟨row, k, ⟨hrow, hy⟩, ⟨hk, hx⟩, rfl⟩
    refine ⟨row, hrow, k, hk, rfl, ?_, hx⟩
    rwa [InRow, htop row hrow k rfl]
  · rintro ⟨row, hrow, k, hk, rfl, hy, hx⟩
    rw [InRow, htop row hrow k rfl] at hy
    exact ⟨row, k, ⟨hrow, hy⟩, ⟨hk, hx⟩, rfl⟩

section
variable {x y : Int} (hg : g.Valid) (hfit : g.BaselinesFit) (hx : x < 2 ^ 31) (hy : y < 2 ^ 31)
include hg hfit hx hy

theorem Valid.nibbleAt?_bounds :
    g.nibbleAt? x y = some n ↔
      n < 2 * g.length ∧ g.NibbleVisible n ∧
        (g.rowTop (g.rowOf n) ≤ y ∧ y < g.rowTop (g.rowOf n) + g.rowHeight) ∧
        ((g.nibbleBounds n).x ≤ x ∧ x < (g.nibbleBounds n).x + (g.nibbleBounds n).width ∨
          n % 2 = 0 ∧ (g.textBounds n).x ≤ x ∧
            x < (g.textBounds n).x + (g.textBounds n).width) := by
  rw [hg.nibbleAt?_place hfit hx hy, visible_iff hg.layout.row_pos]
  refine and_congr_right fun hn => ?_
  constructor
  · rintro ⟨row, hrow, k, hk, rfl, hplace⟩
    simp only [(nibbleIn_div_mod row hk).1, hg.nibbleBounds_nibbleIn hrow hk,
      textBounds_nibbleIn hrow hk,
      (nibbleIn_half row k).1]
    exact ⟨⟨row, hrow, k, hk, rfl⟩, hplace⟩
  · rintro ⟨⟨row, hrow, k, hk, rfl⟩, hplace⟩
    simp only [(nibbleIn_div_mod row hk).1, hg.nibbleBounds_nibbleIn hrow hk,
      textBounds_nibbleIn hrow hk,
      (nibbleIn_half row k).1] at hplace
    exact ⟨row, hrow, k, hk, rfl, hplace⟩

theorem Valid.nibbleAt?_of_nibbleBounds (hn : n < 2 * g.length) (hvisible : g.NibbleVisible n)
    (hin : (g.nibbleBounds n).Contains x y) : g.nibbleAt? x y = some n := by
  obtain ⟨row, hrow, k, hk, rfl⟩ := (visible_iff hg.layout.row_pos).mp hvisible
  have hglyph := Int.add_le_add_left hg.glyphHeight_le (g.rowTop row)
  rw [hg.nibbleBounds_nibbleIn hrow hk] at hin
  obtain ⟨-, hleft, hright, htop, hbottom⟩ := hin
  rw [hg.nibbleAt?_place hfit hx hy]
  exact ⟨hn, row, hrow, k, hk, rfl, ⟨htop, Int.lt_of_lt_of_le hbottom hglyph⟩, .inl ⟨hleft, hright⟩⟩

theorem Valid.nibbleAt?_of_textBounds (hn : n < 2 * g.length) (hvisible : g.NibbleVisible n)
    (hin : (g.textBounds n).Contains x y) : g.nibbleAt? x y = some (2 * (n / 2)) := by
  obtain ⟨row, hrow, k, hk, rfl⟩ := (visible_iff hg.layout.row_pos).mp hvisible
  have hglyph := Int.add_le_add_left hg.glyphHeight_le (g.rowTop row)
  rw [textBounds_nibbleIn hrow hk] at hin
  obtain ⟨-, hleft, hright, htop, hbottom⟩ := hin
  have hhalf := (nibbleIn_half (g := g) row k).2
  rw [hg.nibbleAt?_place hfit hx hy]
  refine ⟨by omega, row, hrow, 2 * (k / 2), by omega, hhalf,
    ⟨htop, Int.lt_of_lt_of_le hbottom hglyph⟩, .inr ⟨by omega, ?_⟩⟩
  rw [Nat.mul_div_cancel_left _ (by decide)]
  exact ⟨hleft, hright⟩

end

/-- A visible nibble is the one under a point exactly if the point has the height of its row and the
width of its digit or, for a high nibble, of its character. Points of its rectangles lead back to
it. -/
theorem nibbleAt?_eq_some_iff (hl : g.layout.validate = .ok ()) (hm : g.metrics.validate = .ok ())
    (hfit : g.BaselinesFit) :
    (∀ (x y : Int32) (n : Nat), g.nibbleAt? x.toInt y.toInt = some n ↔
      n < 2 * g.length ∧ g.NibbleVisible n ∧
        (g.rowTop (g.rowOf n) ≤ y.toInt ∧ y.toInt < g.rowTop (g.rowOf n) + g.rowHeight) ∧
        ((g.nibbleBounds n).x ≤ x.toInt ∧
          x.toInt < (g.nibbleBounds n).x + (g.nibbleBounds n).width ∨
          n % 2 = 0 ∧ (g.textBounds n).x ≤ x.toInt ∧
            x.toInt < (g.textBounds n).x + (g.textBounds n).width)) ∧
      ∀ (x y : Int32), ∀ n < 2 * g.length, g.NibbleVisible n →
        ((g.nibbleBounds n).Contains x.toInt y.toInt → g.nibbleAt? x.toInt y.toInt = some n) ∧
          ((g.textBounds n).Contains x.toInt y.toInt →
            g.nibbleAt? x.toInt y.toInt = some (2 * (n / 2))) := by
  have hg := Valid.of_validate hl hm
  refine ⟨fun x y n => hg.nibbleAt?_bounds hfit x.toInt_lt y.toInt_lt, fun x y n hn hvisible =>
    ⟨?_, ?_⟩⟩
  · exact hg.nibbleAt?_of_nibbleBounds hfit x.toInt_lt y.toInt_lt hn hvisible
  · exact hg.nibbleAt?_of_textBounds hfit x.toInt_lt y.toInt_lt hn hvisible

/-- The low digit of the last byte of a row, in a column cut short by the end of the row, and a
point in the gap under it. -/
theorem nibbleAt?_partialColumn :
    let g : Grid :=
      { layout := { bytesPerRow := 5 }, length := 20, firstRow := 1, firstColumn := 3,
        visibleRows := 2 }
    g.layout.validate = .ok () ∧ g.metrics.validate = .ok () ∧ g.BaselinesFit ∧
      g.nibbleAt? (153 : Int32).toInt (31 : Int32).toInt = some 29 :=
  ⟨rfl, rfl, by decide, ((nibbleAt?_eq_some_iff rfl rfl (by decide)).1 153 31 29).mpr (by decide)⟩

end HexEditor.Grid
