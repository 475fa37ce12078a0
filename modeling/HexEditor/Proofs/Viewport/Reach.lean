import HexEditor.Proofs.Frame.Cells
import HexEditor.Proofs.Viewport
import HexEditor.Proofs.Word.Grid

/-!
# What scrolling reaches

The extents of a window are computed from counts of rows and from the width of the content, the
places of the cells from columns and digits. The two agree: a row of the data can always be shown,
and by the shortest way (`reveal_nearest`), and there is a scroll position for every cell at which
it lies within the window from its left edge to its right one (`recomputeExtents_reaches`).
-/

namespace HexEditor

namespace Viewport

variable {v : Viewport} {g : Grid}

-- ---------------------------------------------------------------------------
-- Rows
-- ---------------------------------------------------------------------------

/-- The scroll position lies within the extents and shows a row. A window is taken to be at least
one row high. -/
structure Shows (v : Viewport) (row rows : Nat) : Prop where
  within : v.firstRow ≤ v.extents.verticalMax
  first_le : v.firstRow ≤ row
  lt_last : row < v.firstRow + max rows 1

section
variable {nibble bytesPerRow rows : Nat}

theorem Shows.ensureVisible_eq_self (h : v.Shows (nibble / (2 * bytesPerRow)) rows) :
    v.ensureVisible nibble bytesPerRow rows = v := by
  have hfirst := h.first_le
  have hlast := h.lt_last
  unfold ensureVisible
  rw [if_neg (by omega), if_neg (by omega)]

theorem Shows.reveal_eq_self (h : v.Shows (nibble / (2 * bytesPerRow)) rows) :
    v.reveal nibble bytesPerRow rows = (false, v) := by
  simp [reveal, h.ensureVisible_eq_self]

theorem extents_ensureVisible (v : Viewport) (nibble bytesPerRow rows : Nat) :
    (v.ensureVisible nibble bytesPerRow rows).extents = v.extents := by
  rw [ensureVisible_eq]

end

section
variable (hextents : v.extents = (v.recomputeExtents g).extents)
include hextents

theorem row_le_verticalMax (hrow : row < divUp g.length g.layout.bytesPerRow) :
    row + 1 - max (v.visibleRows g.topPadding g.metrics.rowHeight) 1 ≤ v.extents.verticalMax := by
  have hmax := verticalMax_eq hextents
  unfold marginRows at hmax
  split at hmax <;> omega

variable (hfirst : v.firstRow ≤ v.extents.verticalMax)
include hfirst

/-- A row of the data is brought to the nearer edge of the window, and the extents do not stop it on
its way. -/
theorem firstRow_ensureVisible_of_lt
    (hrow : n / (2 * g.layout.bytesPerRow) < divUp g.length g.layout.bytesPerRow) :
    let rows := v.visibleRows g.topPadding g.metrics.rowHeight
    (v.ensureVisible n g.layout.bytesPerRow rows).firstRow =
      if n / (2 * g.layout.bytesPerRow) < v.firstRow then n / (2 * g.layout.bytesPerRow)
      else if v.firstRow + max rows 1 ≤ n / (2 * g.layout.bytesPerRow) then
        n / (2 * g.layout.bytesPerRow) + 1 - max rows 1
      else v.firstRow := by
  intro rows
  rw [firstRow_ensureVisible]
  split
  · exact Nat.min_eq_left (by omega)
  split
  · exact Nat.min_eq_left (row_le_verticalMax hextents hrow)
  · rfl

theorem shows_ensureVisible
    (hrow : n / (2 * g.layout.bytesPerRow) < divUp g.length g.layout.bytesPerRow) :
    let rows := v.visibleRows g.topPadding g.metrics.rowHeight
    (v.ensureVisible n g.layout.bytesPerRow rows).Shows (n / (2 * g.layout.bytesPerRow)) rows := by
  intro rows
  have hreach := row_le_verticalMax hextents hrow
  have hshown := firstRow_ensureVisible_of_lt hextents hfirst hrow
  constructor
  · rw [hshown, extents_ensureVisible]
    split
    · omega
    split
    · exact hreach
    · exact hfirst
  · rw [hshown]
    repeat' split
    all_goals omega
  · rw [hshown]
    repeat' split
    all_goals omega

theorem ensureVisible_nearest
    (hrow : n / (2 * g.layout.bytesPerRow) < divUp g.length g.layout.bytesPerRow) :
    let rows := v.visibleRows g.topPadding g.metrics.rowHeight
    let shown := v.ensureVisible n g.layout.bytesPerRow rows
    { v with firstRow := first }.Shows (n / (2 * g.layout.bytesPerRow)) rows →
    first ≠ shown.firstRow →
      (shown.firstRow - v.firstRow : Int).natAbs < (first - v.firstRow : Int).natAbs := by
  rintro rows shown ⟨-, hle, hlt⟩ hne
  have hshown : shown.firstRow = _ := firstRow_ensureVisible_of_lt hextents hfirst hrow
  simp only at hle hlt
  split at hshown
  · omega
  split at hshown
  · omega
  · omega

end

/-- A nibble of the data is shown by scrolling no farther than its row needs. -/
theorem reveal_nearest (hlayout : g.layout.validate = .ok ())
    (hextents : v.extents = (v.recomputeExtents g).extents)
    (hfirst : v.firstRow ≤ v.extents.verticalMax) (hn : n < 2 * g.length) :
    let rows := v.visibleRows g.topPadding g.metrics.rowHeight
    let row := n / (2 * g.layout.bytesPerRow)
    ∃ moved shown, v.reveal n g.layout.bytesPerRow rows = (moved, shown) ∧
      shown = { v with firstRow := shown.firstRow } ∧
      shown.firstRow ≤ row ∧ row < shown.firstRow + max rows 1 ∧
        shown.firstRow ≤ shown.extents.verticalMax ∧
      (∀ first, first ≤ v.extents.verticalMax → first ≤ row → row < first + max rows 1 →
        first ≠ shown.firstRow →
        (shown.firstRow - v.firstRow : Int).natAbs < (first - v.firstRow : Int).natAbs) ∧
      (moved = true ↔ shown.firstRow ≠ v.firstRow) ∧
      (moved = true ↔ ¬ (v.firstRow ≤ row ∧ row < v.firstRow + max rows 1)) ∧
      shown.reveal n g.layout.bytesPerRow rows = (false, shown) := by
  intro rows row
  have hpos := (Layout.validate_ok.mp hlayout).row_pos
  have hrow : n / (2 * g.layout.bytesPerRow) < divUp g.length g.layout.bytesPerRow := by
    have hle := Nat.div_mul_le_self n (2 * g.layout.bytesPerRow)
    rw [Nat.mul_left_comm] at hle
    rw [lt_divUp_iff hpos]
    omega
  have hshows := shows_ensureVisible hextents hfirst hrow
  refine ⟨_, _, rfl, ensureVisible_eq _ _ _ _, hshows.first_le, hshows.lt_last, hshows.within, ?_,
    decide_eq_true_iff, ?_,
    hshows.reveal_eq_self⟩
  · intro first hmax hle hlt hne
    exact ensureVisible_nearest hextents hfirst hrow ⟨hmax, hle, hlt⟩ hne
  · rw [decide_eq_true_iff]
    refine not_congr ⟨fun hsame => ?_, fun hshown => ?_⟩
    · rw [← hsame]
      exact ⟨hshows.first_le, hshows.lt_last⟩
    · rw [Shows.ensureVisible_eq_self ⟨hfirst, hshown.1, hshown.2⟩]

/-- The last row of the data, from the middle of it: the window stops two rows short of its end. -/
theorem reveal_nearest_lastRow :
    let g : Grid := { length := 1000 }
    let v : Viewport := { ({ height := 100 } : Viewport).recomputeExtents g with firstRow := 30 }
    v.visibleRows g.topPadding g.metrics.rowHeight = 7 ∧ v.extents.verticalMax = 58 ∧
      ∃ moved shown, v.reveal 1999 16 7 = (moved, shown) ∧ shown.firstRow ≤ 62 ∧
        62 < shown.firstRow + 7 ∧
        (moved, shown) = (true, { v with firstRow := 56 }) ∧
        shown.reveal 1999 16 7 = (false, shown) := by
  intro g v
  have hrows : v.visibleRows g.topPadding g.metrics.rowHeight = 7 := by decide
  have hrow : 1999 / (2 * g.layout.bytesPerRow) = 62 := by decide
  obtain ⟨moved, shown, hreveal, -, hle, hlt, -, -, -, -, hagain⟩ :=
    reveal_nearest (v := v) (g := g) (n := 1999) rfl rfl (by decide) (by decide)
  rw [hrows] at hreveal hlt hagain
  rw [hrow] at hle hlt
  exact ⟨hrows, by decide, moved, shown, hreveal, hle, hlt, hreveal.symm.trans (by decide), hagain⟩

-- ---------------------------------------------------------------------------
-- Columns
-- ---------------------------------------------------------------------------

/-- Whatever lies within the content and is at most two characters wide can be brought into the
window by whole characters. -/
theorem exists_column {left width : Nat} (hg : g.Valid) (hwidth : width ≤ 2 * g.metrics.charWidth)
    (hright : left + width ≤ g.contentWidth) (hwindow : 3 * g.metrics.charWidth ≤ v.width) :
    ∃ column ≤ (v.extentsFor g).horizontalMax,
      column * g.metrics.charWidth ≤ left ∧
        left + width ≤ v.width + column * g.metrics.charWidth := by
  have hchar := hg.metrics.width_pos
  by_cases hfits : left + width ≤ v.width
  · exact ⟨0, Nat.zero_le _, by omega, by omega⟩
  have hover := divUp_mul_ge (a := left + width - v.width) hchar
  have hunder : divUp (left + width - v.width) g.metrics.charWidth * g.metrics.charWidth ≤ _ :=
    Nat.div_mul_le_self _ _
  refine ⟨divUp (left + width - v.width) g.metrics.charWidth, ?_, by omega, by omega⟩
  have hle : divUp (left + width - v.width) g.metrics.charWidth ≤
      (g.contentWidth.toNat - v.width + g.metrics.charWidth) / g.metrics.charWidth :=
    Nat.div_le_div_right (by omega)
  rw [Nat.add_div_right _ hchar] at hle
  simpa only [extentsFor, Nat.max_eq_left hchar,
    if_pos (show v.width < g.contentWidth.toNat by omega)] using hle

end Viewport

-- ---------------------------------------------------------------------------
-- Cells
-- ---------------------------------------------------------------------------

namespace Grid

/-- Left edge of the cell of the `n`-th byte of a row. -/
def cellX (g : Grid) (n : Nat) : Pane → Int
  | .text => g.textCellX n
  | _ => g.hexCellX n

def cellWidth (g : Grid) : Pane → Nat
  | .text => g.metrics.charWidth
  | _ => 2 * g.metrics.charWidth

def scrolled (g : Grid) (row column rows : Nat) : Grid :=
  { g with firstRow := row, firstColumn := column, visibleRows := rows }

variable {g : Grid}

theorem cellWidth_le (g : Grid) (pane : Pane) : g.cellWidth pane ≤ 2 * g.metrics.charWidth := by
  cases pane <;> simp only [cellWidth] <;> omega

/-- How far a cell is from the left edge of the content does not depend on the scroll position. -/
theorem cellX_scrolled (g : Grid) (row column rows n : Nat) (pane : Pane) :
    (g.scrolled row column rows).cellX n pane + (g.scrolled row column rows).scrollX =
    g.cellX n pane + g.scrollX := by
  have hhex : (g.scrolled row column rows).hexPaneLeft + (g.scrolled row column rows).scrollX =
    g.hexPaneLeft + g.scrollX := by
    simp only [hexPaneLeft]
    change g.offsetPaneWidth - _ + _ = _
    omega
  cases pane with
  | text =>
    change (g.scrolled row column rows).hexPaneLeft + g.hexPaneWidth + paddingLeft +
        pixels n * g.charWidth + _ =
      g.hexPaneLeft + g.hexPaneWidth + paddingLeft + pixels n * g.charWidth + _
    omega
  | _ =>
    change (g.scrolled row column rows).hexPaneLeft + paddingLeft +
      pixels (n / g.layout.bytesPerColumn) * g.columnSize +
        pixels (n % g.layout.bytesPerColumn) * 2 * g.charWidth + _ =
      g.hexPaneLeft + paddingLeft + pixels (n / g.layout.bytesPerColumn) * g.columnSize +
        pixels (n % g.layout.bytesPerColumn) * 2 * g.charWidth + _
    omega

theorem Valid.cellX_within (hg : g.Valid) (hn : n < g.layout.bytesPerRow) (pane : Pane) :
    0 ≤ g.cellX n pane + g.scrollX ∧ g.cellX n pane + g.scrollX + g.cellWidth pane ≤
      g.contentWidth := by
  have hchar := hg.charWidth_pos
  have hchar' := hg.charWidth_eq
  have hoffsets := (InWords.offsetPaneWidth_within hg).ge
  have hhex := (InWords.hexPaneWidth_within hg).ge
  have htext : g.textPaneLeft + g.scrollX = g.offsetPaneWidth + g.hexPaneWidth := by
    simp only [textPaneLeft, hexPaneLeft]
    omega
  have hrow : (n * g.metrics.charWidth : Nat) + g.metrics.charWidth ≤
    g.charWidth * pixels g.layout.bytesPerRow := by
    have hle := hg.layout.row_le
    have := Nat.mul_le_mul_right g.metrics.charWidth hn
    rw [Nat.succ_mul, Nat.mul_comm g.layout.bytesPerRow] at this
    rw [pixels_of_lt (by omega), hchar', ← Int.natCast_mul]
    omega
  have hcontent : g.contentWidth =
      g.offsetPaneWidth + g.hexPaneWidth + 10 + g.charWidth * pixels g.layout.bytesPerRow := rfl
  cases pane with
  | text =>
    simp only [cellX, cellWidth, hg.textCellX_eq hn, paddingLeft]
    omega
  | _ =>
    have hlow := digitLeft_low hg.layout.column_pos n
    have hlt := hg.digitLeft_lt (k := 2 * n + 1) (by omega)
    simp only [cellX, cellWidth, hg.hexCellX_eq hn, hexPaneLeft, paddingLeft] at hlt ⊢
    omega

theorem exists_shown_of_row (hr : 0 < g.layout.bytesPerRow) (hp : p < g.length)
    (hfirst : g.firstRow ≤ p / g.layout.bytesPerRow)
    (hlast : p / g.layout.bytesPerRow < g.firstRow + g.visibleRows) :
    ∃ i < g.shownBytes, g.firstByte + i = p ∧
      i % g.layout.bytesPerRow = p % g.layout.bytesPerRow := by
  have hrow : 2 * p / (2 * g.layout.bytesPerRow) = p / g.layout.bytesPerRow :=
    Nat.mul_div_mul_left _ _ (by decide)
  obtain ⟨hlow, hhigh⟩ := (nibbleVisible_iff hr).mpr ⟨hrow ▸ hfirst, hrow ▸ hlast⟩
  obtain ⟨i, rfl⟩ : ∃ i, p = g.firstByte + i := ⟨p - g.firstByte, by omega⟩
  exact ⟨i, lt_shownBytes.mpr ⟨by omega, hp⟩, rfl, (Nat.mul_add_mod_self_right _ _ _).symm⟩

end Grid

namespace Scene

variable {s : Scene}

/-- The cell of the `i`-th visible byte in one of the two panes. -/
def cell (s : Scene) (i : Nat) : Pane → Cell
  | .text => s.textCell i
  | _ => s.hexCell i

theorem cell_mem (hi : i < s.grid.shownBytes) (pane : Pane) : s.cell i pane ∈ s.cells := by
  cases pane with
  | text => exact mem_cells.mpr ⟨i, hi, .inr rfl⟩
  | _ => exact mem_cells.mpr ⟨i, hi, .inl rfl⟩

theorem cell_position (s : Scene) (i : Nat) (pane : Pane) :
    (s.cell i pane).position = s.grid.firstByte + i := by
  cases pane <;> rfl

theorem cell_left (s : Scene) (i : Nat) (pane : Pane) :
    (s.cell i pane).bounds.x = s.grid.cellX (i % s.grid.layout.bytesPerRow) pane := by
  cases pane <;> rfl

theorem cell_width (hg : s.grid.Valid) (i : Nat) (pane : Pane) :
    (s.cell i pane).bounds.width = s.grid.cellWidth pane := by
  cases pane <;> simp [cell, hexCell, textCell, Grid.cellWidth, hg.charWidth_eq]

theorem exists_cell (hg : s.grid.Valid) (pane : Pane) (hpane : pane ≠ .offsets)
    (hp : p < s.grid.length) (hfirst : s.grid.firstRow ≤ p / s.grid.layout.bytesPerRow)
    (hlast : p / s.grid.layout.bytesPerRow < s.grid.firstRow + s.grid.visibleRows) :
    ∃ c ∈ s.compose.cells, c.pane = pane ∧ c.position = p ∧
      c.bounds.x = s.grid.cellX (p % s.grid.layout.bytesPerRow) pane ∧
      c.bounds.width = s.grid.cellWidth pane := by
  obtain ⟨i, hi, rfl, hmod⟩ := Grid.exists_shown_of_row hg.layout.row_pos hp hfirst hlast
  refine ⟨s.cell i pane, cell_mem hi pane, ?_, s.cell_position i pane, hmod ▸ s.cell_left i pane,
    cell_width hg i pane⟩
  cases pane with
  | offsets => exact absurd rfl hpane
  | hex => rfl
  | text => rfl

end Scene

namespace Viewport

variable {v : Viewport} {g : Grid}

theorem exists_row (hr : 0 < g.layout.bytesPerRow)
    (hrows : 0 < v.visibleRows g.topPadding g.metrics.rowHeight) (hp : p < g.length) :
    ∃ row ≤ (v.extentsFor g).verticalMax, row ≤ p / g.layout.bytesPerRow ∧
      p / g.layout.bytesPerRow < row + v.visibleRows g.topPadding g.metrics.rowHeight := by
  have hrow : 2 * p / (2 * g.layout.bytesPerRow) = p / g.layout.bytesPerRow :=
    Nat.mul_div_mul_left _ _ (by decide)
  have hlt : 2 * p / (2 * g.layout.bytesPerRow) < divUp g.length g.layout.bytesPerRow := by
    rw [hrow, lt_divUp_iff hr]
    exact Nat.lt_of_le_of_lt (Nat.div_mul_le_self _ _) hp
  have hshows := shows_ensureVisible (v := v.recomputeExtents g) rfl (Nat.min_le_right _ _) hlt
  have hwithin := hshows.within
  have hlast := hshows.lt_last
  rw [hrow] at hlast
  rw [extents_ensureVisible] at hwithin
  refine ⟨_, hwithin, hrow ▸ hshows.first_le, ?_⟩
  change _ < _ + max (v.visibleRows _ _) 1 at hlast
  rwa [Nat.max_eq_left hrows] at hlast

theorem verticalMax_eq_zero_iff (hr : 0 < g.layout.bytesPerRow) :
    (v.extentsFor g).verticalMax = 0 ↔
      ∀ p < g.length, p / g.layout.bytesPerRow <
        v.visibleRows g.topPadding g.metrics.rowHeight := by
  simp only [extentsFor, marginRows, lt_divUp_iff hr, Nat.div_lt_iff_lt_mul hr]
  split
  · rename_i hlt
    exact ⟨fun h => by omega, fun h => absurd (h _ hlt) (Nat.lt_irrefl _)⟩
  · exact ⟨fun _ p hp => by omega, fun _ => rfl⟩

theorem horizontalMax_eq_zero_iff (hg : g.Valid) :
    (v.extentsFor g).horizontalMax = 0 ↔ g.contentWidth ≤ v.width := by
  have hnonneg := (InWords.contentWidth_within hg).ge
  simp only [extentsFor]
  split
  · exact ⟨fun h => absurd h (Nat.succ_ne_zero _), fun h => by omega⟩
  · exact ⟨fun _ => by omega, fun _ => rfl⟩

theorem verticalEnabled_eq_false_iff :
    (v.extentsFor g).verticalEnabled = false ↔ (v.extentsFor g).verticalMax = 0 := by
  simp only [extentsFor, marginRows]
  split <;> simp [*]

theorem horizontalEnabled_eq_false_iff :
    (v.extentsFor g).horizontalEnabled = false ↔ (v.extentsFor g).horizontalMax = 0 := by
  simp only [extentsFor]
  split <;> simp [*]

theorem exists_column_within (hg : g.Valid) (hn : n < g.layout.bytesPerRow) (pane : Pane)
    (hwindow : 3 * g.metrics.charWidth ≤ v.width) :
    ∃ column ≤ (v.extentsFor g).horizontalMax, ∀ row rows,
      0 ≤ (g.scrolled row column rows).cellX n pane ∧
      (g.scrolled row column rows).cellX n pane + g.cellWidth pane ≤ v.width := by
  obtain ⟨hnonneg, hright⟩ := hg.cellX_within hn pane
  obtain ⟨left, hleft⟩ := Int.eq_ofNat_of_zero_le hnonneg
  rw [hleft] at hright
  obtain ⟨column, hcolumn, hin, hin'⟩ := exists_column hg (g.cellWidth_le pane) hright hwindow
  refine ⟨column, hcolumn, fun row rows => ?_⟩
  -- The content is narrow enough for the scroll position to be a pixel measure.
  have hcontent := (InWords.contentWidth_within hg).le
  have hscroll : (g.scrolled row column rows).scrollX = (column * g.metrics.charWidth : Nat) :=
    pixels_of_lt (show column * g.metrics.charWidth < 2 ^ 31 by omega)
  have hfixed := g.cellX_scrolled row column rows n pane
  omega

/-- Every byte has a scroll position at which its cell lies within the window, and there is nothing
to scroll exactly if everything fits. -/
theorem recomputeExtents_reaches (hlayout : g.layout.validate = .ok ())
    (hmetrics : g.metrics.validate = .ok ())
    (hrows : 0 < v.visibleRows g.topPadding g.metrics.rowHeight)
    (hwidth : 3 * g.metrics.charWidth ≤ v.width) :
    let extents := (v.recomputeExtents g).extents
    let rows := v.visibleRows g.topPadding g.metrics.rowHeight
    (∀ p < g.length, ∀ pane, pane = .hex ∨ pane = .text →
      ∃ row ≤ extents.verticalMax, ∃ column ≤ extents.horizontalMax,
      ∀ s : Scene, s.grid = g.scrolled row column rows →
        ∃ c ∈ s.compose.cells, c.pane = pane ∧ c.position = p ∧ 0 ≤ c.bounds.x ∧
          c.bounds.x + c.bounds.width ≤ v.width) ∧
    (extents.verticalMax = 0 ↔ ∀ p < g.length, p / g.layout.bytesPerRow < rows) ∧
    (extents.verticalEnabled = false ↔ extents.verticalMax = 0) ∧
    (extents.horizontalMax = 0 ↔ g.contentWidth ≤ v.width) ∧
    (extents.horizontalEnabled = false ↔ extents.horizontalMax = 0) := by
  intro extents rows
  have hg := Grid.Valid.of_validate hlayout hmetrics
  have hr := hg.layout.row_pos
  refine ⟨?_, verticalMax_eq_zero_iff hr, verticalEnabled_eq_false_iff,
    horizontalMax_eq_zero_iff hg,
    horizontalEnabled_eq_false_iff⟩
  intro p hp pane hpane
  obtain ⟨row, hrow, hfirst, hlast⟩ := exists_row hr hrows hp
  obtain ⟨column, hcolumn, hcell⟩ := exists_column_within hg (Nat.mod_lt p hr) pane hwidth
  refine ⟨row, hrow, column, hcolumn, ?_⟩
  intro s hs
  have hgrid : s.grid.Valid := hs ▸ ⟨hg.layout, hg.metrics⟩
  obtain ⟨c, hc, hpane', hposition, hx, hw⟩ := Scene.exists_cell hgrid (p := p) pane
    (by rcases hpane with rfl | rfl <;> decide) (hs ▸ hp) (hs ▸ hfirst) (hs ▸ hlast)
  refine ⟨c, hc, hpane', hposition, ?_⟩
  rw [hx, hw, hs]
  exact hcell row rows

/-- The last character of the last byte, in a window three characters wide. -/
theorem recomputeExtents_reaches_lastCharacter :
    let g : Grid := { length := 1000 }
    let v : Viewport := { width := 24, height := 100 }
    let extents := (v.recomputeExtents g).extents
    extents.verticalMax = 58 ∧ extents.horizontalMax = 63 ∧ ∃ row ≤ extents.verticalMax,
      ∃ column ≤ extents.horizontalMax,
      ∀ s : Scene, s.grid = g.scrolled row column (v.visibleRows g.topPadding g.metrics.rowHeight) →
        ∃ c ∈ s.compose.cells, c.pane = .text ∧ c.position = 999 ∧ 0 ≤ c.bounds.x ∧
          c.bounds.x + c.bounds.width ≤ 24 :=
  ⟨by decide, by decide,
    (recomputeExtents_reaches rfl rfl (by decide) (by decide)).1 999 (by decide) .text (.inr rfl)⟩

end Viewport

end HexEditor
