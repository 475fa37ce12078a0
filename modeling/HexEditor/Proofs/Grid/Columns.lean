import HexEditor.Checked
import HexEditor.Proofs.Word.Hit
import Mathlib.Data.Set.Function
import Mathlib.Order.Interval.Set.Defs
import Mathlib.Order.Monotone.Defs

/-!
# Columns and rows as sets of positions

A column is a set of bytes next to each other; the last one of a row and the last one of the data
may be shorter than the others. Drawn in reverse, each of them is turned around within itself, so
that rows keep their bytes. `flip_mirrors` says so, and that in machine words this is computed
exactly if the end of the row is such a word: no difference on the way is negative then, but the
last row of the address space has no end (`flip_lastRow`).
-/

namespace HexEditor

namespace Grid

def column (g : Grid) (row column : Nat) : Set Nat :=
  {p | p < g.length ∧ p / g.layout.bytesPerRow = row ∧
    p % g.layout.bytesPerRow / g.layout.bytesPerColumn = column}

instance (g : Grid) (row column p : Nat) : Decidable (p ∈ g.column row column) :=
  inferInstanceAs (Decidable (_ ∧ _))

/-- Positions of the bytes of the rows from `first` on and before `stop`. -/
def rows (g : Grid) (first stop : Nat) : Set Nat :=
  Set.Ico (first * g.layout.bytesPerRow) (min (stop * g.layout.bytesPerRow) g.length)

variable {g : Grid}

theorem mem_rows_iff (hl : g.layout.Valid) :
    p ∈ g.rows first stop ↔ p < g.length ∧ first ≤ p / g.layout.bytesPerRow ∧
      p / g.layout.bytesPerRow < stop := by
  rw [Nat.le_div_iff_mul_le hl.row_pos, Nat.div_lt_iff_lt_mul hl.row_pos]
  change _ ≤ p ∧ p < min _ _ ↔ _
  omega

theorem column_inj (hl : g.layout.Valid)
    (hrow : q / g.layout.bytesPerRow = p / g.layout.bytesPerRow)
    (hstart : g.columnStart q = g.columnStart p) :
    q % g.layout.bytesPerRow / g.layout.bytesPerColumn =
      p % g.layout.bytesPerRow / g.layout.bytesPerColumn := by
  rw [columnStart, columnStart, hrow] at hstart
  exact Nat.eq_of_mul_eq_mul_right hl.column_pos (Nat.add_left_cancel hstart)

theorem flip_mod_div (hl : g.layout.Valid) (p : Nat) :
    g.flip p % g.layout.bytesPerRow / g.layout.bytesPerColumn =
      p % g.layout.bytesPerRow / g.layout.bytesPerColumn := by
  by_cases hp : p < g.length
  · obtain ⟨hlow, hhigh⟩ := flip_mem_column hl hp
    exact column_inj hl (flip_div hl p) (column_eq hlow hhigh).2.1
  · rw [flip_eq_self fun h => hp h.2]

theorem flip_strictAntiOn (hl : g.layout.Valid) (hf : g.layout.flipBytes = true)
    (row column : Nat) :
    StrictAntiOn g.flip (g.column row column) := by
  rintro p ⟨hp, rfl, rfl⟩ q ⟨hq, hrow, hcolumn⟩ hlt
  have hstart : g.columnStart q = g.columnStart p := by
    unfold columnStart
    rw [hrow, hcolumn]
  have hbytes : g.columnBytes q = g.columnBytes p := by
    unfold columnBytes
    rw [hrow, hstart]
  have hmirror := flip_add hl hf hp
  have hmirror' := flip_add hl hf hq
  omega

theorem flip_bijOn_rows (hl : g.layout.Valid) (first stop : Nat) :
    Set.BijOn g.flip (g.rows first stop) (g.rows first stop) := by
  have hmaps : Set.MapsTo g.flip (g.rows first stop) (g.rows first stop) := by
    intro p hp
    rw [mem_rows_iff hl] at hp ⊢
    rw [flip_div hl]
    exact ⟨flip_lt hl hp.1, hp.2⟩
  refine ⟨hmaps, fun p _ q _ h => flip_inj hl h, fun p hp => ?_⟩
  exact ⟨g.flip p, hmaps hp, flip_flip hl p⟩

theorem nibbleOfOffset_offsetOfNibble (hl : g.layout.Valid) (n : Nat) :
    g.nibbleOfOffset (g.offsetOfNibble n) = 2 * (n / 2) := by
  rw [nibbleOfOffset, offsetOfNibble, flip_flip hl]

/-- Each column is turned around within itself, however short it is, and nothing else moves. -/
theorem flip_mirrors (hl : g.layout.Valid) :
    (g.layout.flipBytes = true →
      (∀ p < g.length, g.flip p < g.length) ∧
      (∀ p, g.flip p / g.layout.bytesPerRow = p / g.layout.bytesPerRow ∧
        g.flip p % g.layout.bytesPerRow / g.layout.bytesPerColumn =
          p % g.layout.bytesPerRow / g.layout.bytesPerColumn) ∧
      (∀ row column, StrictAntiOn g.flip (g.column row column)) ∧
      (∀ first stop, Set.BijOn g.flip (g.rows first stop) (g.rows first stop)) ∧
      ∀ p < g.length, ∀ bound > g.length, (InWords.flipBelow bound g p).nat? =
        if (p / g.layout.bytesPerRow + 1) * g.layout.bytesPerRow < bound then some (g.flip p)
        else none) ∧
    (∀ p, g.flip (g.flip p) = p) ∧
    (∀ p, g.layout.flipBytes = false ∨ g.length ≤ p → g.flip p = p) ∧
    ∀ n, g.nibbleOfOffset (g.offsetOfNibble n) = 2 * (n / 2) := by
  refine ⟨fun hf => ⟨fun p => flip_lt hl, fun p => ⟨flip_div hl p, flip_mod_div hl p⟩,
    flip_strictAntiOn hl hf, flip_bijOn_rows hl, ?_⟩, flip_flip hl, ?_,
      nibbleOfOffset_offsetOfNibble hl⟩
  · intro p hp bound hlength
    split
    · exact InWords.flipBelow_eq hl hf hp hlength ‹_›
    · exact InWords.flipBelow_eq_none hl (by omega) (by omega)
  · rintro p (hf | hp)
    · exact flip_eq_self (by simp [hf])
    · exact flip_eq_self fun h => absurd h.2 (Nat.not_lt.mpr hp)

/-- Rows of two columns and a half, and data that ends within a column. -/
theorem flip_mirrors_cut :
    let g : Grid :=
      { layout := { bytesPerRow := 10, bytesPerColumn := 4, flipBytes := true }, length := 27 }
    g.layout.Valid ∧ 8 ∈ g.column 0 2 ∧ 9 ∈ g.column 0 2 ∧ g.flip 9 < g.flip 8 ∧
      24 ∈ g.column 2 1 ∧ 26 ∈ g.column 2 1 ∧ g.flip 26 < g.flip 24 ∧ g.flip (g.flip 25) = 25 ∧
      Set.BijOn g.flip (g.rows 1 3) (g.rows 1 3) ∧
      (InWords.flipBelow 31 g 26).nat? = some (g.flip 26) ∧
      (InWords.flipBelow 30 g 26).nat? = none := by
  intro g
  have hl : g.layout.Valid := by constructor <;> decide
  have hrow : 8 ∈ g.column 0 2 ∧ 9 ∈ g.column 0 2 := by constructor <;> decide
  have hdata : 24 ∈ g.column 2 1 ∧ 26 ∈ g.column 2 1 := by constructor <;> decide
  obtain ⟨hflip, hback, -⟩ := flip_mirrors hl
  obtain ⟨-, -, hreverse, honto, hwords⟩ := hflip rfl
  exact ⟨hl, hrow.1, hrow.2, hreverse 0 2 hrow.1 hrow.2 (by decide), hdata.1, hdata.2,
    hreverse 2 1 hdata.1 hdata.2 (by decide), hback 25, honto 1 3,
    (hwords 26 (by decide) 31 (by decide)).trans (if_pos (by decide)),
    (hwords 26 (by decide) 30 (by decide)).trans (if_neg (by decide))⟩

/-- In the last row of the address space the byte has a mirror image, but no sum of 64 bits is the
end of the row, so it cannot be computed by way of it. -/
theorem flip_lastRow :
    let g : Grid := { layout := { flipBytes := true }, length := 2 ^ 64 - 1 }
    g.layout.validate = .ok () ∧ g.flip (2 ^ 64 - 4) = 2 ^ 64 - 3 ∧
      InWords.flip g (2 ^ 64 - 4) = none ∧ g.flip? (2 ^ 64 - 4) = none :=
  ⟨rfl, by decide, by decide, by decide⟩

end Grid

end HexEditor
