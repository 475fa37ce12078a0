import HexEditor.Frame
import HexEditor.Proofs.Grid.Hit

/-!
# The cells of a frame

A frame has a hex cell and a text cell for each byte on screen, in the order of their positions. The
`i`-th byte on screen is in the row `i / bytesPerRow`; its cells cover its two digits and its
character, over the whole height of the row.
-/

namespace HexEditor

def Rect.Inside (r s : Rect) : Prop :=
  s.x ≤ r.x ∧ r.x + r.width ≤ s.x + s.width ∧ s.y ≤ r.y ∧ r.y + r.height ≤ s.y + s.height

/-- The part of a row that belongs to a cell: as wide as its background and as high as the row. -/
def Cell.box (c : Cell) (g : Grid) : Rect :=
  { c.bounds with height := g.rowHeight }

namespace Grid

variable {g : Grid}

theorem lt_shownBytes : i < g.shownBytes ↔ i < g.capacity ∧ g.firstByte + i < g.length := by
  unfold shownBytes
  omega

theorem row_lt_of_shown (hi : i < g.shownBytes) : i / g.layout.bytesPerRow < g.visibleRows := by
  have hcapacity := (lt_shownBytes.mp hi).1
  rw [capacity, Nat.mul_comm] at hcapacity
  exact Nat.div_lt_of_lt_mul hcapacity

theorem nibbleIn_shown_byte (i half : Nat) :
    g.nibbleIn (i / g.layout.bytesPerRow) (2 * (i % g.layout.bytesPerRow) + half) =
      2 * (g.firstByte + i) + half := by
  have := Nat.div_add_mod' i g.layout.bytesPerRow
  unfold nibbleIn
  omega

theorem BaselinesFit.of_shown (hfit : g.BaselinesFit) (hi : i < g.shownBytes) :
    g.topPadding + (i / g.layout.bytesPerRow : Nat) * g.metrics.rowHeight < 2 ^ 31 := by
  have hshown := (lt_shownBytes.mp hi).2
  have hbyte := Nat.div_mul_le_self i g.layout.bytesPerRow
  exact hfit _ (row_lt_of_shown hi) (by omega)

/-- No pixel measure of what is drawn overflows: neither the way that the panes are scrolled to the
left nor the baselines of the rows. -/
structure PixelsFit (g : Grid) : Prop where
  scroll : g.firstColumn * g.metrics.charWidth < 2 ^ 31
  baselines : g.BaselinesFit

theorem exists_shown_byte (hrow : row < g.visibleRows) (hk : k < 2 * g.layout.bytesPerRow)
    (hn : g.nibbleIn row k < 2 * g.length) :
    ∃ i < g.shownBytes, i / g.layout.bytesPerRow = row ∧ i % g.layout.bytesPerRow = k / 2 ∧
      g.nibbleIn row k / 2 = g.firstByte + i := by
  have hrows := Nat.mul_le_mul_right g.layout.bytesPerRow hrow
  obtain ⟨hq, hr⟩ := (div_mod_eq_iff (n := row * g.layout.bytesPerRow + k / 2) (q := row)
    (show k / 2 < g.layout.bytesPerRow by omega)).mpr rfl
  rw [Nat.succ_mul] at hrows
  refine ⟨row * g.layout.bytesPerRow + k / 2, lt_shownBytes.mpr ?_, hq, hr, ?_⟩
  · unfold capacity
    unfold nibbleIn at hn
    omega
  · unfold nibbleIn
    omega

end Grid

namespace Scene

variable {s : Scene}

theorem cells_compose (s : Scene) : s.compose.cells = s.cells :=
  rfl

theorem mem_cells :
    c ∈ s.cells ↔ ∃ i < s.grid.shownBytes, c = s.hexCell i ∨ c = s.textCell i := by
  simp [cells]

theorem position_of_cell (h : c = s.hexCell i ∨ c = s.textCell i) :
    s.grid.firstByte + i = c.position := by
  obtain rfl | rfl := h <;> rfl

-- ---------------------------------------------------------------------------
-- Boxes
-- ---------------------------------------------------------------------------

theorem hexCell_box (hg : s.grid.Valid) (i : Nat) :
    (s.hexCell i).box s.grid =
      ⟨s.grid.hexPaneLeft + Grid.paddingLeft + s.grid.digitLeft
        (2 * (i % s.grid.layout.bytesPerRow)),
        s.grid.rowTop (i / s.grid.layout.bytesPerRow), 2 * s.grid.charWidth, s.grid.rowHeight⟩ := by
  have hn := Nat.mod_lt i hg.layout.row_pos
  simp only [Cell.box, hexCell, ← hg.hexCellX_eq hn, Grid.rowTop]

theorem textCell_box (i : Nat) :
    (s.textCell i).box s.grid =
      ⟨s.grid.textCellX (i % s.grid.layout.bytesPerRow),
        s.grid.rowTop (i / s.grid.layout.bytesPerRow),
        s.grid.charWidth, s.grid.rowHeight⟩ := by
  simp only [Cell.box, textCell, Grid.rowTop]

theorem hexCell_box_contains (hg : s.grid.Valid) :
    ((s.hexCell i).box s.grid).Contains x y ↔
      s.grid.InRow (i / s.grid.layout.bytesPerRow) y ∧
        (s.grid.OnDigit (2 * (i % s.grid.layout.bytesPerRow)) x ∨
          s.grid.OnDigit (2 * (i % s.grid.layout.bytesPerRow) + 1) x) := by
  have hlow := Grid.digitLeft_low hg.layout.column_pos (i % s.grid.layout.bytesPerRow)
  have hwidth := hg.charWidth_pos
  have hheight := hg.rowHeight_pos
  rw [hexCell_box hg]
  simp only [Rect.Contains, Rect.IsEmpty, Grid.InRow, Grid.OnDigit, hlow]
  rw [hg.charWidth_eq] at hwidth ⊢
  omega

theorem textCell_box_contains (hg : s.grid.Valid) :
    ((s.textCell i).box s.grid).Contains x y ↔
      s.grid.InRow (i / s.grid.layout.bytesPerRow) y ∧
        s.grid.OnChar (i % s.grid.layout.bytesPerRow) x := by
  have hwidth := hg.charWidth_pos
  have hheight := hg.rowHeight_pos
  rw [textCell_box]
  simp only [Rect.Contains, Rect.IsEmpty, Grid.InRow, Grid.OnChar]
  omega

end Scene

end HexEditor
