import HexEditor.Grid
import HexEditor.Proofs.Layout

/-!
# Columns drawn in reverse

The bytes of a column change places within the column, also when it is cut short by the end of its
row or of the data. So `flip` is its own inverse, no byte leaves its row, and the bytes on screen
are those of the positions on screen.
-/

namespace HexEditor.Grid

variable (g : Grid)

def columnStart (p : Nat) : Nat :=
  p / g.layout.bytesPerRow * g.layout.bytesPerRow +
    p % g.layout.bytesPerRow / g.layout.bytesPerColumn * g.layout.bytesPerColumn

def columnBytes (p : Nat) : Nat :=
  min (min g.layout.bytesPerColumn
    (p / g.layout.bytesPerRow * g.layout.bytesPerRow + g.layout.bytesPerRow - g.columnStart p))
    (g.length - g.columnStart p)

variable {g}

-- ---------------------------------------------------------------------------
-- Columns
-- ---------------------------------------------------------------------------

theorem mem_column (hl : g.layout.Valid) (hp : p < g.length) :
    g.columnStart p ≤ p ∧ p < g.columnStart p + g.columnBytes p := by
  have hrow := Nat.div_add_mod' p g.layout.bytesPerRow
  have hcolumn := Nat.div_add_mod' (p % g.layout.bytesPerRow) g.layout.bytesPerColumn
  have hlt := Nat.mod_lt p hl.row_pos
  have hlt' := Nat.mod_lt (p % g.layout.bytesPerRow) hl.column_pos
  unfold columnBytes columnStart
  omega

theorem column_le (hp : g.columnStart p ≤ p) (hlt : p < g.columnStart p + g.columnBytes p) :
    g.columnStart p + g.columnBytes p ≤
        p / g.layout.bytesPerRow * g.layout.bytesPerRow + g.layout.bytesPerRow ∧
      g.columnStart p + g.columnBytes p ≤ g.length := by
  unfold columnBytes at *
  omega

theorem column_eq (hq : g.columnStart p ≤ q) (hlt : q < g.columnStart p + g.columnBytes p) :
    q / g.layout.bytesPerRow = p / g.layout.bytesPerRow ∧ g.columnStart q = g.columnStart p ∧
      g.columnBytes q = g.columnBytes p := by
  -- Within the column the row does not end, so neither quotient changes.
  obtain ⟨k, rfl⟩ := Nat.exists_eq_add_of_le hq
  have hk : k < g.columnBytes p := by omega
  unfold columnBytes at hk
  have hstart : g.columnStart p = p / g.layout.bytesPerRow * g.layout.bytesPerRow +
      p % g.layout.bytesPerRow / g.layout.bytesPerColumn * g.layout.bytesPerColumn := rfl
  obtain ⟨hrow, hinRow⟩ :=
    (div_mod_eq_iff (n := g.columnStart p + k) (q := p / g.layout.bytesPerRow)
    (show p % g.layout.bytesPerRow / g.layout.bytesPerColumn * g.layout.bytesPerColumn + k <
      g.layout.bytesPerRow by omega)).mpr (by omega)
  obtain ⟨hcolumn, -⟩ := (div_mod_eq_iff (n := p % g.layout.bytesPerRow / g.layout.bytesPerColumn *
    g.layout.bytesPerColumn + k) (show k < g.layout.bytesPerColumn by omega)).mpr rfl
  have hsame : g.columnStart (g.columnStart p + k) = g.columnStart p := by
    rw [columnStart, hrow, hinRow, hcolumn]
    rfl
  refine ⟨hrow, hsame, ?_⟩
  rw [columnBytes, hrow, hsame]
  rfl

-- ---------------------------------------------------------------------------
-- Mirrored places
-- ---------------------------------------------------------------------------

/-- A position and the offset drawn there are equally far from the ends of their column. -/
theorem flip_add (hl : g.layout.Valid) (hf : g.layout.flipBytes = true) (hp : p < g.length) :
    g.flip p + p + 1 = 2 * g.columnStart p + g.columnBytes p := by
  have hcolumn := mem_column hl hp
  have hrow := Nat.div_add_mod' p g.layout.bytesPerRow
  have hinRow := Nat.div_add_mod' (p % g.layout.bytesPerRow) g.layout.bytesPerColumn
  have hrowStart :
      p - p % g.layout.bytesPerRow = p / g.layout.bytesPerRow * g.layout.bytesPerRow := by omega
  have hrest : p - p / g.layout.bytesPerRow * g.layout.bytesPerRow =
    p % g.layout.bytesPerRow := by omega
  have hstart : p / g.layout.bytesPerRow * g.layout.bytesPerRow + p % g.layout.bytesPerRow -
      p % g.layout.bytesPerRow % g.layout.bytesPerColumn = g.columnStart p := by
    unfold columnStart
    omega
  rw [flip, if_pos ⟨hf, hp⟩]
  simp only [hrowStart, hrest, hstart]
  rw [← columnBytes]
  omega

theorem flip_congr {g' : Grid} (hlayout : g'.layout = g.layout) (hlength : g'.length = g.length)
    (p : Nat) :
    g'.flip p = g.flip p := by
  unfold flip
  rw [hlayout, hlength]

theorem flip_eq_self (h : ¬ (g.layout.flipBytes = true ∧ p < g.length)) : g.flip p = p :=
  if_neg h

theorem flip_mem_column (hl : g.layout.Valid) (hp : p < g.length) :
    g.columnStart p ≤ g.flip p ∧ g.flip p < g.columnStart p + g.columnBytes p := by
  have hcolumn := mem_column hl hp
  by_cases hf : g.layout.flipBytes = true
  · have := flip_add hl hf hp
    omega
  · rw [flip_eq_self fun h => hf h.1]
    exact hcolumn

theorem flip_lt (hl : g.layout.Valid) (hp : p < g.length) : g.flip p < g.length := by
  obtain ⟨hstart, hlt⟩ := mem_column hl hp
  exact Nat.lt_of_lt_of_le (flip_mem_column hl hp).2 (column_le hstart hlt).2

theorem flip_div (hl : g.layout.Valid) (p : Nat) :
    g.flip p / g.layout.bytesPerRow = p / g.layout.bytesPerRow := by
  by_cases hp : p < g.length
  · obtain ⟨hstart, hlt⟩ := flip_mem_column hl hp
    exact (column_eq hstart hlt).1
  · rw [flip_eq_self fun h => hp h.2]

theorem flip_flip (hl : g.layout.Valid) (p : Nat) : g.flip (g.flip p) = p := by
  by_cases h : g.layout.flipBytes = true ∧ p < g.length
  · obtain ⟨hf, hp⟩ := h
    obtain ⟨hstart, hlt⟩ := flip_mem_column hl hp
    obtain ⟨-, hsame, hbytes⟩ := column_eq hstart hlt
    have hmirror := flip_add hl hf hp
    have hback := flip_add hl hf (flip_lt hl hp)
    omega
  · rw [flip_eq_self h, flip_eq_self h]

theorem flip_inj (hl : g.layout.Valid) (h : g.flip p = g.flip q) : p = q := by
  rw [← flip_flip hl p, h, flip_flip hl]

-- ---------------------------------------------------------------------------
-- Bytes on screen
-- ---------------------------------------------------------------------------

def shownPositions (g : Grid) : List Nat :=
  List.range' g.firstByte g.shownBytes

theorem mem_shownPositions :
    p ∈ g.shownPositions ↔ g.firstByte ≤ p ∧ p < g.firstByte + g.capacity ∧ p < g.length := by
  rw [shownPositions, List.mem_range'_1, shownBytes]
  omega

theorem flip_mem_shownPositions (hl : g.layout.Valid) (hp : p ∈ g.shownPositions) :
    g.flip p ∈ g.shownPositions := by
  rw [mem_shownPositions] at hp ⊢
  obtain ⟨hlow, hhigh, hlt⟩ := hp
  refine ⟨?_, ?_, flip_lt hl hlt⟩
  · rw [firstByte, ← Nat.le_div_iff_mul_le hl.row_pos] at hlow ⊢
    rwa [flip_div hl]
  · rw [firstByte, capacity, ← Nat.add_mul, ← Nat.div_lt_iff_lt_mul hl.row_pos] at hhigh ⊢
    rwa [flip_div hl]

theorem flip_perm (hl : g.layout.Valid) : (g.shownPositions.map g.flip).Perm g.shownPositions := by
  have hnodup : g.shownPositions.Nodup := List.nodup_range' 1
  have hmap : (g.shownPositions.map g.flip).Nodup := by
    rw [List.Nodup, List.pairwise_map]
    exact hnodup.imp fun hne h => hne (flip_inj hl h)
  rw [List.perm_ext_iff_of_nodup hmap hnodup]
  intro p
  rw [List.mem_map]
  constructor
  · rintro ⟨q, hq, rfl⟩
    exact flip_mem_shownPositions hl hq
  · intro hp
    exact ⟨g.flip p, flip_mem_shownPositions hl hp, flip_flip hl p⟩

end HexEditor.Grid
