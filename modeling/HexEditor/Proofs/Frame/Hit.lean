import HexEditor.Proofs.Frame.Cells
import HexEditor.Source
import HexEditor.View

/-!
# Cells and hits

`compose_hit`: drawing, hit test, highlighting under the pointer and the map from positions to
offsets agree on every pixel. A point in the box of a cell leads to a nibble of that cell and to its
offset; a point with a nibble lies in one box only; and what is highlighted for it lies in the boxes
of the two cells of its byte.

Pixel measures are taken to fit into 32 bits. They need not, in a window of billions of rows:
`compose_hit_hiddenRow` has one that is drawn over the first.
-/

namespace HexEditor

namespace Grid

variable {g : Grid}

namespace Valid

variable (hg : g.Valid)
include hg

theorem rowTop_le (hfit : g.BaselinesFit) (hi : i < g.shownBytes) :
    g.rowTop 0 ≤ g.rowTop (i / g.layout.bytesPerRow) := by
  rw [hg.rowTop_eq (hfit.of_shown hi)]
  have := Int.mul_nonneg (Int.natCast_nonneg (i / g.layout.bytesPerRow))
    (Int.le_of_lt hg.rowHeight_pos)
  omega

theorem paneAt?_digit (hy : g.rowTop 0 ≤ y) (hk : k < 2 * g.layout.bytesPerRow)
    (hx : g.OnDigit k x) :
    g.paneAt? x y = some .hex := by
  have htext := hg.digitLeft_lt hk
  have hpad : paddingLeft = 10 := rfl
  unfold OnDigit at hx
  rw [hg.charWidth_eq] at hx
  unfold paneAt?
  rw [if_neg (by omega), if_neg (by omega), if_pos (by omega)]

theorem half_eq (hhalf : half < 2) (hx : g.OnDigit (2 * n + half) x) :
    (x - (g.hexPaneLeft + paddingLeft + g.digitLeft (2 * n))) / g.charWidth = half := by
  have hlow := digitLeft_low hg.layout.column_pos n
  have hdigit : g.digitLeft (2 * n + half) = g.digitLeft (2 * n) + half * g.metrics.charWidth := by
    obtain rfl | rfl : half = 0 ∨ half = 1 := by omega
    · simp
    · simpa using hlow
  unfold OnDigit at hx
  rw [Int.ediv_eq_iff_of_pos hg.charWidth_pos, hg.charWidth_eq, ← Int.natCast_mul]
  rw [hg.charWidth_eq, hdigit] at hx
  omega

theorem paneAt?_char (hy : g.rowTop 0 ≤ y) (hn : n < g.layout.bytesPerRow) (hx : g.OnChar n x) :
    g.paneAt? x y = some .text := by
  have htext := hg.digitLeft_lt (k := 0) (by omega)
  have hpad : paddingLeft = 10 := rfl
  unfold OnChar at hx
  rw [hg.textCellX_eq hn] at hx
  unfold paneAt?
  rw [if_neg (by omega), if_neg (by omega), if_neg (by omega)]

end Valid

end Grid

theorem flatMap_range_single {f : Nat → List α} (hi : i < n) (h : ∀ j < n, j ≠ i → f j = []) :
    (List.range n).flatMap f = f i := by
  induction n with
  | zero => omega
  | succ n ih =>
    rw [List.range_succ, List.flatMap_append, List.flatMap_singleton]
    by_cases hlast : i = n
    · subst hlast
      have hnone : (List.range i).flatMap f = [] := by
        rw [List.flatMap_eq_nil_iff]
        intro j hj
        have := List.mem_range.mp hj
        exact h j (by omega) (by omega)
      rw [hnone, List.nil_append]
    · rw [ih (by omega) fun j hj => h j (by omega), h n (by omega) (Ne.symm hlast), List.append_nil]

namespace Scene

variable {s : Scene}

-- ---------------------------------------------------------------------------
-- From a cell to its nibbles
-- ---------------------------------------------------------------------------

section
variable {x y : Int} (hg : s.grid.Valid) (hfit : s.grid.BaselinesFit) (hx : x < 2 ^ 31)
  (hy : y < 2 ^ 31)
include hg hfit hx hy

theorem nibbleAt?_digit (hi : i < s.grid.shownBytes) (hhalf : half < 2)
    (hrow : s.grid.InRow (i / s.grid.layout.bytesPerRow) y)
    (hdigit : s.grid.OnDigit (2 * (i % s.grid.layout.bytesPerRow) + half) x) :
    s.grid.nibbleAt? x y = some (2 * (s.grid.firstByte + i) + half) := by
  have hn := Nat.mod_lt i hg.layout.row_pos
  have hshown := (Grid.lt_shownBytes.mp hi).2
  rw [hg.nibbleAt?_place hfit hx hy]
  exact ⟨by omega, _, Grid.row_lt_of_shown hi, _, by omega,
    (Grid.nibbleIn_shown_byte i half).symm, hrow, .inl hdigit⟩

theorem nibbleAt?_char (hi : i < s.grid.shownBytes)
    (hrow : s.grid.InRow (i / s.grid.layout.bytesPerRow) y)
    (hchar : s.grid.OnChar (i % s.grid.layout.bytesPerRow) x) :
    s.grid.nibbleAt? x y = some (2 * (s.grid.firstByte + i)) := by
  have hn := Nat.mod_lt i hg.layout.row_pos
  have hshown := (Grid.lt_shownBytes.mp hi).2
  rw [hg.nibbleAt?_place hfit hx hy]
  refine ⟨by omega, _, Grid.row_lt_of_shown hi, _, by omega,
    (Grid.nibbleIn_shown_byte i 0).symm, hrow, .inr ⟨by omega, ?_⟩⟩
  rwa [Nat.add_zero, Nat.mul_div_cancel_left _ (by decide)]

theorem hexCell_hit (hi : i < s.grid.shownBytes) (hbox : ((s.hexCell i).box s.grid).Contains x y) :
    s.grid.paneAt? x y = some .hex ∧
      ∃ half < 2, s.grid.nibbleAt? x y = some (2 * (s.grid.firstByte + i) + half) ∧
        (x - (s.hexCell i).x) / s.grid.charWidth = half := by
  obtain ⟨hrow, hdigits⟩ := (hexCell_box_contains hg).mp hbox
  have hn := Nat.mod_lt i hg.layout.row_pos
  have htop := Int.le_trans (hg.rowTop_le hfit hi) hrow.1
  obtain ⟨half, hhalf, hdigit⟩ :
      ∃ half < 2, s.grid.OnDigit (2 * (i % s.grid.layout.bytesPerRow) + half) x := by
    rcases hdigits with h | h
    · exact ⟨0, by decide, h⟩
    · exact ⟨1, by decide, h⟩
  refine ⟨hg.paneAt?_digit htop (by omega) hdigit, half, hhalf,
    nibbleAt?_digit hg hfit hx hy hi hhalf hrow hdigit, ?_⟩
  simp only [hexCell, hg.hexCellX_eq hn, hg.half_eq hhalf hdigit]

theorem textCell_hit (hi : i < s.grid.shownBytes)
    (hbox : ((s.textCell i).box s.grid).Contains x y) :
    s.grid.paneAt? x y = some .text ∧ s.grid.nibbleAt? x y = some (2 * (s.grid.firstByte + i)) := by
  obtain ⟨hrow, hchar⟩ := (textCell_box_contains hg).mp hbox
  have htop := Int.le_trans (hg.rowTop_le hfit hi) hrow.1
  exact ⟨hg.paneAt?_char htop (Nat.mod_lt i hg.layout.row_pos) hchar,
    nibbleAt?_char hg hfit hx hy hi hrow hchar⟩

-- ---------------------------------------------------------------------------
-- From a nibble to its cell
-- ---------------------------------------------------------------------------

theorem byte_eq_of_box (hn : s.grid.nibbleAt? x y = some n) (hpos : n / 2 = s.grid.firstByte + i)
    (hj : j < s.grid.shownBytes)
    (hbox : ((s.hexCell j).box s.grid).Contains x y ∨ ((s.textCell j).box s.grid).Contains x y) :
    j = i := by
  rcases hbox with hbox | hbox
  · obtain ⟨-, half, hhalf, hhit, -⟩ := hexCell_hit hg hfit hx hy hj hbox
    rw [hn, Option.some.injEq] at hhit
    omega
  · obtain ⟨-, hhit⟩ := textCell_hit hg hfit hx hy hj hbox
    rw [hn, Option.some.injEq] at hhit
    omega

theorem not_textCell_box (hi : i < s.grid.shownBytes)
    (hhex : ((s.hexCell i).box s.grid).Contains x y) :
    ¬ ((s.textCell i).box s.grid).Contains x y := by
  intro htext
  have hpane := (hexCell_hit hg hfit hx hy hi hhex).1
  rw [(textCell_hit hg hfit hx hy hi htext).1] at hpane
  simp at hpane

theorem filter_box_byte (hi : i < s.grid.shownBytes)
    (hrow : s.grid.InRow (i / s.grid.layout.bytesPerRow) y)
    (hplace : s.grid.OnDigit k x ∨ k % 2 = 0 ∧ s.grid.OnChar (k / 2) x)
    (hk : i % s.grid.layout.bytesPerRow = k / 2) :
    ∃ c, [s.hexCell i, s.textCell i].filter (fun c => (c.box s.grid).Contains x y) = [c] := by
  rcases hplace with hdigit | ⟨-, hchar⟩
  · have hhex : ((s.hexCell i).box s.grid).Contains x y := by
      rw [hexCell_box_contains hg, hk]
      refine ⟨hrow, ?_⟩
      obtain h | h : k = 2 * (k / 2) ∨ k = 2 * (k / 2) + 1 := by omega
      · exact .inl (h ▸ hdigit)
      · exact .inr (h ▸ hdigit)
    have htext := not_textCell_box hg hfit hx hy hi hhex
    exact ⟨s.hexCell i, by simp [hhex, htext]⟩
  · have htext : ((s.textCell i).box s.grid).Contains x y := by
      rw [textCell_box_contains hg, hk]
      exact ⟨hrow, hchar⟩
    have hhex : ¬ ((s.hexCell i).box s.grid).Contains x y := fun hhex =>
      not_textCell_box hg hfit hx hy hi hhex htext
    exact ⟨s.textCell i, by simp [hhex, htext]⟩

theorem filter_box (hn : s.grid.nibbleAt? x y = some n) :
    ∃ c, s.cells.filter (fun c => (c.box s.grid).Contains x y) = [c] := by
  obtain ⟨hlt, row, hrow, k, hk, rfl, hheight, hplace⟩ := (hg.nibbleAt?_place hfit hx hy).mp hn
  obtain ⟨i, hi, rfl, hmod, hpos⟩ := Grid.exists_shown_byte hrow hk hlt
  -- The cells of every other byte miss the point.
  have hothers : ∀ j < s.grid.shownBytes, j ≠ i →
      [s.hexCell j, s.textCell j].filter (fun c => (c.box s.grid).Contains x y) = [] := by
    intro j hj hne
    have hhex : ¬ ((s.hexCell j).box s.grid).Contains x y := fun hbox =>
      hne (byte_eq_of_box hg hfit hx hy hn hpos hj (.inl hbox))
    have htext : ¬ ((s.textCell j).box s.grid).Contains x y := fun hbox =>
      hne (byte_eq_of_box hg hfit hx hy hn hpos hj (.inr hbox))
    simp [hhex, htext]
  rw [cells, List.filter_flatMap, flatMap_range_single hi hothers]
  exact filter_box_byte hg hfit hx hy hi hheight hplace hmod

end

-- ---------------------------------------------------------------------------
-- Under the pointer
-- ---------------------------------------------------------------------------

theorem nibbleBounds_inside (hg : s.grid.Valid) (hi : i < s.grid.shownBytes) (hhalf : half < 2) :
    ¬ (s.grid.nibbleBounds (2 * (s.grid.firstByte + i) + half)).IsEmpty ∧
      (s.grid.nibbleBounds (2 * (s.grid.firstByte + i) + half)).Inside
      ((s.hexCell i).box s.grid) := by
  have hn := Nat.mod_lt i hg.layout.row_pos
  have hlow := Grid.digitLeft_low hg.layout.column_pos (i % s.grid.layout.bytesPerRow)
  have hwidth := hg.charWidth_pos
  have hheight := hg.glyphHeight_pos
  have hle := hg.glyphHeight_le
  rw [← Grid.nibbleIn_shown_byte, hg.nibbleBounds_nibbleIn (Grid.row_lt_of_shown hi) (by omega),
    hexCell_box hg]
  obtain rfl | rfl : half = 0 ∨ half = 1 := by omega
  all_goals
    simp only [Rect.IsEmpty, Rect.Inside, Nat.add_zero, hlow]
    rw [hg.charWidth_eq] at hwidth ⊢
    omega

theorem textBounds_inside (hg : s.grid.Valid) (hi : i < s.grid.shownBytes) (hhalf : half < 2) :
    ¬ (s.grid.textBounds (2 * (s.grid.firstByte + i) + half)).IsEmpty ∧
      (s.grid.textBounds (2 * (s.grid.firstByte + i) + half)).Inside
      ((s.textCell i).box s.grid) := by
  have hn := Nat.mod_lt i hg.layout.row_pos
  have hwidth := hg.charWidth_pos
  have hheight := hg.glyphHeight_pos
  have hle := hg.glyphHeight_le
  rw [← Grid.nibbleIn_shown_byte, Grid.textBounds_nibbleIn (Grid.row_lt_of_shown hi) (by omega),
    textCell_box,
    show (2 * (i % s.grid.layout.bytesPerRow) + half) / 2 = i % s.grid.layout.bytesPerRow by omega]
  simp only [Rect.IsEmpty, Rect.Inside]
  omega

section
variable {x y : Int} (hg : s.grid.Valid) (hfit : s.grid.BaselinesFit) (hx : x < 2 ^ 31)
  (hy : y < 2 ^ 31)
include hg hfit hx hy

/-- A nibble under a point belongs to a byte on screen; if it is found in the text pane, it is the
high one. -/
theorem byte_of_nibbleAt? (hn : s.grid.nibbleAt? x y = some n) :
    (∃ i < s.grid.shownBytes, ∃ half < 2, n = 2 * (s.grid.firstByte + i) + half) ∧
      (s.grid.paneAt? x y = some .text → n % 2 = 0) := by
  obtain ⟨hlt, row, hrow, k, hk, rfl, hheight, hplace⟩ := (hg.nibbleAt?_place hfit hx hy).mp hn
  obtain ⟨i, hi, rfl, hmod, hpos⟩ := Grid.exists_shown_byte hrow hk hlt
  refine ⟨⟨i, hi, _, Nat.mod_lt _ (by decide), by rw [← hpos, Nat.div_add_mod]⟩, fun htext => ?_⟩
  rcases hplace with hdigit | ⟨heven, -⟩
  · rw [hg.paneAt?_digit (Int.le_trans (hg.rowTop_le hfit hi) hheight.1) hk hdigit] at htext
    simp at htext
  · rw [(Grid.nibbleIn_half _ _).1, heven]

theorem hoverRects_inside (hn : s.grid.nibbleAt? x y = some n) :
    ∃ hex ∈ s.cells, ∃ text ∈ s.cells, ∃ digits,
      hex.pane = .hex ∧ hex.position = n / 2 ∧ text.pane = .text ∧ text.position = n / 2 ∧
        (digits = [s.grid.nibbleBounds n] ∨
          digits = [s.grid.nibbleBounds n, s.grid.nibbleBounds (n + 1)]) ∧
        s.grid.hoverRects x y = digits ++ [s.grid.textBounds n] ∧
        (∀ r ∈ digits, ¬ r.IsEmpty ∧ r.Inside (hex.box s.grid)) ∧
        ¬ (s.grid.textBounds n).IsEmpty ∧ (s.grid.textBounds n).Inside (text.box s.grid) := by
  obtain ⟨⟨i, hi, half, hhalf, hbyte⟩, heven⟩ := byte_of_nibbleAt? hg hfit hx hy hn
  have hposition : s.grid.firstByte + i = n / 2 := by omega
  have htext := textBounds_inside hg hi hhalf
  rw [← hbyte] at htext
  have hdigit := nibbleBounds_inside hg hi hhalf
  rw [← hbyte] at hdigit
  refine ⟨_, mem_cells.mpr ⟨i, hi, .inl rfl⟩, _, mem_cells.mpr ⟨i, hi, .inr rfl⟩, ?_⟩
  by_cases hpane : s.grid.paneAt? x y = some .text
  · have hnext := nibbleBounds_inside hg hi (show 1 < 2 by decide)
    rw [show 2 * (s.grid.firstByte + i) + 1 = n + 1 by have := heven hpane; omega] at hnext
    refine ⟨_, rfl, hposition, rfl, hposition, .inr rfl, ?_, fun r hr => ?_, htext⟩
    · simp [Grid.hoverRects, hn, hpane, hdigit.1, hnext.1, htext.1]
    · rcases List.mem_cons.mp hr with rfl | hr
      · exact hdigit
      · rw [List.mem_singleton.mp hr]
        exact hnext
  · refine ⟨_, rfl, hposition, rfl, hposition, .inl rfl, ?_, fun r hr => ?_, htext⟩
    · simp [Grid.hoverRects, hn, hpane, hdigit.1, htext.1]
    · rw [List.mem_singleton.mp hr]
      exact hdigit

end

/-- Every point of a cell leads to the cell's pane, to a nibble of its byte and to its offset. -/
theorem cell_hit [ByteSource σ] {x y : Int} (hg : s.grid.Valid) (hfit : s.grid.BaselinesFit)
    (hx : x < 2 ^ 31) (hy : y < 2 ^ 31) (hc : c ∈ s.cells) (hbox : (c.box s.grid).Contains x y) :
    s.grid.paneAt? x y = some c.pane ∧
      ∃ n, s.grid.nibbleAt? x y = some n ∧ n / 2 = c.position ∧
        (c.pane = .hex → (n : Int) = 2 * c.position + (x - c.x) / s.grid.charWidth) ∧
        (c.pane = .text → n % 2 = 0) ∧
        s.grid.offsetOfNibble n = c.offset ∧
        ∀ v : View σ, v.grid = s.grid → v.offsetAt? x y = some c.offset := by
  obtain ⟨i, hi, rfl | rfl⟩ := mem_cells.mp hc
  · obtain ⟨hpane, half, hhalf, hn, hdistance⟩ := hexCell_hit hg hfit hx hy hi hbox
    have hbyte : (2 * (s.grid.firstByte + i) + half) / 2 = s.grid.firstByte + i := by omega
    have hoffset : s.grid.offsetOfNibble (2 * (s.grid.firstByte + i) + half) =
      (s.hexCell i).offset := by
      rw [Grid.offsetOfNibble, hbyte]
      rfl
    refine ⟨hpane, _, hn, hbyte, fun _ => ?_, fun h => (nomatch h), hoffset, fun v hv => ?_⟩
    · rw [hdistance]
      rfl
    · rw [View.offsetAt?, hv, hn, Option.map_some, hoffset]
  · obtain ⟨hpane, hn⟩ := textCell_hit hg hfit hx hy hi hbox
    have hbyte : 2 * (s.grid.firstByte + i) / 2 = s.grid.firstByte + i := by omega
    have hoffset : s.grid.offsetOfNibble (2 * (s.grid.firstByte + i)) = (s.textCell i).offset := by
      rw [Grid.offsetOfNibble, hbyte]
      rfl
    refine ⟨hpane, _, hn, hbyte, fun h => (nomatch h), fun _ => by omega, hoffset, fun v hv => ?_⟩
    rw [View.offsetAt?, hv, hn, Option.map_some, hoffset]

end Scene

end HexEditor
