import HexEditor.Frame
import HexEditor.Proofs.Frame.Cells
import HexEditor.Proofs.Viewport
import HexEditor.Source
import HexEditor.View

/-!
# Rows of labels and cells

Labels are counted out row by row until the data ends, cells byte by byte. `compose_labels`: both
stop at the same row. Every row that shows a byte has a label with the address of its first
position, and the cells with the baseline of a label are those of its row.

A baseline is a 32-bit number, so rows that are far enough apart share one
(`compose_labels_around`). In a window of less than `2 ^ 31` pixels there are no such rows.
-/

namespace HexEditor

-- ---------------------------------------------------------------------------
-- Labels
-- ---------------------------------------------------------------------------

namespace Grid

variable (g : Grid)

def rowStart (row : Nat) : Nat :=
  g.firstByte + row * g.layout.bytesPerRow

def label (row : Nat) : OffsetLabel :=
  ⟨g.layout.formatAddress (g.rowStart row), paddingLeft - g.scrollX, g.baseline row⟩

theorem rowStart_le (row n : Nat) : g.rowStart row ≤ g.rowStart (row + n) := by
  have hrows := Nat.mul_le_mul_right g.layout.bytesPerRow (Nat.le_add_right row n)
  unfold rowStart
  omega

theorem labelsFrom_getElem? (row count r : Nat) :
    (g.labelsFrom row count)[r]? =
      if r < count ∧ g.rowStart (row + r) < g.length then some (g.label (row + r)) else none := by
  induction count generalizing row r with
  | zero => simp [labelsFrom]
  | succ count ih =>
    by_cases hrow : g.rowStart row < g.length
    · have hlabels : g.labelsFrom row (count + 1) = g.label row :: g.labelsFrom (row + 1) count :=
        if_pos hrow
      rw [hlabels]
      cases r with
      | zero => simp [hrow]
      | succ r =>
        rw [List.getElem?_cons_succ, ih, Nat.add_right_comm, Nat.add_assoc]
        simp only [Nat.add_lt_add_iff_right]
    · have hlabels : g.labelsFrom row (count + 1) = [] := if_neg hrow
      -- The labels end with the data: no row further down has one.
      have hlater := g.rowStart_le row r
      rw [hlabels, if_neg (by omega)]
      rfl

theorem labels_getElem? (r : Nat) :
    g.labels[r]? =
      if r < g.visibleRows ∧ g.rowStart r < g.length then some (g.label r) else none := by
  rw [labels, labelsFrom_getElem?, Nat.zero_add]

end Grid

-- ---------------------------------------------------------------------------
-- Rows
-- ---------------------------------------------------------------------------

namespace Grid

variable {g : Grid}

theorem baseline_inj (hg : g.Valid) {r k : Nat}
    (hr : g.topPadding + r * g.metrics.rowHeight < 2 ^ 31)
    (hk : g.topPadding + k * g.metrics.rowHeight < 2 ^ 31)
    (h : g.baseline r = g.baseline k) : r = k := by
  have hheight : g.rowHeight ≠ 0 := Int.ne_of_gt hg.rowHeight_pos
  rw [hg.baseline_eq hr, hg.baseline_eq hk] at h
  exact Int.ofNat_inj.mp (Int.eq_of_mul_eq_mul_right hheight (Int.add_left_cancel h))

-- ---------------------------------------------------------------------------
-- Rows that show a byte
-- ---------------------------------------------------------------------------

section
variable (hr : 0 < g.layout.bytesPerRow)
include hr

/-- A row shows a byte if it is on screen and starts before the end of the data. -/
theorem lt_shownRows_iff :
    r < divUp g.shownBytes g.layout.bytesPerRow ↔ r < g.visibleRows ∧ g.rowStart r < g.length := by
  rw [lt_divUp_iff hr, lt_shownBytes]
  exact and_congr (Nat.mul_lt_mul_right hr) Iff.rfl

theorem shownRow_lt (hi : i < g.shownBytes) :
    i / g.layout.bytesPerRow < divUp g.shownBytes g.layout.bytesPerRow :=
  (lt_divUp_iff hr).mpr (Nat.lt_of_le_of_lt (Nat.div_mul_le_self _ _) hi)

theorem row_eq_iff (i : Nat) :
    i / g.layout.bytesPerRow = r ↔ g.rowStart r ≤ g.firstByte + i ∧
      g.firstByte + i < g.rowStart (r + 1) := by
  unfold rowStart
  rw [Nat.div_eq_iff hr, Nat.succ_mul]
  omega

theorem labels_eq_some_iff :
    g.labels[r]? = some l ↔ r < divUp g.shownBytes g.layout.bytesPerRow ∧ l = g.label r := by
  rw [labels_getElem?]
  split
  · rename_i hrow
    simp [(lt_shownRows_iff hr).mpr hrow, eq_comm]
  · rename_i hrow
    simp [lt_shownRows_iff hr, hrow]

theorem length_labels : g.labels.length = divUp g.shownBytes g.layout.bytesPerRow := by
  apply Nat.le_antisymm
  · refine Nat.le_of_not_lt fun hmore => ?_
    obtain ⟨hlast, -⟩ := (labels_eq_some_iff hr).mp (List.getElem?_eq_getElem hmore)
    exact Nat.lt_irrefl _ hlast
  · refine Nat.le_of_not_lt fun hless => ?_
    obtain ⟨hnext, -⟩ := List.getElem?_eq_some_iff.mp ((labels_eq_some_iff hr).mpr ⟨hless, rfl⟩)
    exact Nat.lt_irrefl _ hnext

end

end Grid

theorem View.baselinesFit [ByteSource σ] (v : View σ) (hm : v.metrics.Valid)
    (hheight : v.viewport.height < 2 ^ 31) : v.grid.BaselinesFit := by
  intro row hrow _
  exact Int.lt_of_lt_of_le (Viewport.baseline_lt_height hm hrow) (by omega)

namespace Scene

variable {s : Scene}

theorem baseline_of_cell (h : c = s.hexCell i ∨ c = s.textCell i) :
    c.baseline = s.grid.baseline (i / s.grid.layout.bytesPerRow) := by
  obtain rfl | rfl := h <;> rfl

end Scene

end HexEditor
