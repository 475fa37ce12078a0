import HexEditor.Proofs.Layout
import HexEditor.Viewport

/-!
# Scroll positions within their extents

The extents of a viewport depend on its size and on the layout, the font and the length of a grid,
not on where it is scrolled to. So scrolling keeps extents that are up to date so, and stops at
their ends.
-/

namespace HexEditor.Viewport

/-- The extents are those of a grid, and the scroll position lies within them. -/
structure Fits (v : Viewport) (g : Grid) : Prop where
  extents : v.extents = (v.recomputeExtents g).extents
  firstRow_le : v.firstRow ≤ v.extents.verticalMax
  firstColumn_le : v.firstColumn ≤ v.extents.horizontalMax

variable {v w : Viewport} {g : Grid}

theorem fits_recomputeExtents (v : Viewport) (g : Grid) : (v.recomputeExtents g).Fits g :=
  ⟨rfl, Nat.min_le_right _ _, Nat.min_le_right _ _⟩

/-- Where a grid is scrolled to does not matter for how far it can be scrolled. -/
theorem Fits.congr {g' : Grid} (h : v.Fits g) (hlayout : g'.layout = g.layout)
    (hmetrics : g'.metrics = g.metrics) (hlength : g'.length = g.length) : v.Fits g' := by
  have hextents : v.extentsFor g' = v.extentsFor g := by
    obtain ⟨layout, metrics, length⟩ := g
    obtain ⟨layout', metrics', length'⟩ := g'
    cases hlayout
    cases hmetrics
    cases hlength
    rfl
  exact ⟨h.extents.trans hextents.symm, h.firstRow_le, h.firstColumn_le⟩

/-- A row that begins below the edge of the window is not visible. -/
theorem baseline_lt_height {m : Metrics} (hm : m.Valid)
    (hrow : row < v.visibleRows m.topPadding m.rowHeight) :
    m.topPadding + row * m.rowHeight < v.height := by
  have hproduct := Int.natCast_mul row m.rowHeight
  rw [visibleRows, Nat.max_eq_left hm.rowHeight_pos, lt_divUp_iff hm.rowHeight_pos] at hrow
  omega

theorem verticalMax_eq (h : v.extents = (v.recomputeExtents g).extents) :
    v.extents.verticalMax =
      if v.visibleRows g.topPadding g.metrics.rowHeight < divUp g.length g.layout.bytesPerRow then
        divUp g.length g.layout.bytesPerRow - v.visibleRows g.topPadding g.metrics.rowHeight +
          marginRows
      else 0 := by
  rw [h]
  rfl

theorem ensureVisible_eq (x : Viewport) (nibble bytesPerRow visibleRows : Nat) :
    x.ensureVisible nibble bytesPerRow visibleRows =
      { x with firstRow := (x.ensureVisible nibble bytesPerRow visibleRows).firstRow } := by
  unfold ensureVisible
  simp only
  repeat' split
  all_goals rfl

theorem firstRow_ensureVisible (x : Viewport) (nibble bytesPerRow shown : Nat) :
    (x.ensureVisible nibble bytesPerRow shown).firstRow =
      if nibble / (2 * bytesPerRow) < x.firstRow then
        min (nibble / (2 * bytesPerRow)) x.extents.verticalMax
      else if x.firstRow + max shown 1 ≤ nibble / (2 * bytesPerRow) then
        min (nibble / (2 * bytesPerRow) + 1 - max shown 1) x.extents.verticalMax
      else x.firstRow := by
  simp only [ensureVisible, setFirstRow]
  repeat' split
  all_goals rfl

/-- Size and extents are kept, and scrolling stops at their ends. -/
structure Scrolled (x y : Viewport) : Prop where
  width : y.width = x.width
  height : y.height = x.height
  extents : y.extents = x.extents
  firstRow_le : y.firstRow ≤ max x.firstRow x.extents.verticalMax
  firstColumn_le : y.firstColumn ≤ max x.firstColumn x.extents.horizontalMax

section
variable (x : Viewport)

theorem scrolled_self : x.Scrolled x :=
  ⟨rfl, rfl, rfl, Nat.le_max_left _ _, Nat.le_max_left _ _⟩

theorem scrolled_setFirstRow (row : Nat) : x.Scrolled (x.setFirstRow row) :=
  ⟨rfl, rfl, rfl, Nat.le_trans (Nat.min_le_right _ _) (Nat.le_max_right _ _), Nat.le_max_left _ _⟩

theorem scrolled_setFirstColumn (column : Nat) : x.Scrolled (x.setFirstColumn column) :=
  ⟨rfl, rfl, rfl, Nat.le_max_left _ _, Nat.le_trans (Nat.min_le_right _ _) (Nat.le_max_right _ _)⟩

theorem scrolled_ensureVisible (nibble bytesPerRow visibleRows : Nat) :
    x.Scrolled (x.ensureVisible nibble bytesPerRow visibleRows) := by
  unfold ensureVisible
  simp only
  split
  · exact x.scrolled_setFirstRow _
  split
  · exact x.scrolled_setFirstRow _
  · exact x.scrolled_self

end

theorem Fits.scrolled (h : v.Fits g) (hw : v.Scrolled w) : w.Fits g := by
  have hrow := hw.firstRow_le
  have hcolumn := hw.firstColumn_le
  rw [Nat.max_eq_right h.firstRow_le] at hrow
  rw [Nat.max_eq_right h.firstColumn_le] at hcolumn
  refine ⟨?_, hw.extents ▸ hrow, hw.extents ▸ hcolumn⟩
  have hextents : w.extentsFor g = v.extentsFor g := by
    unfold extentsFor visibleRows
    rw [hw.width, hw.height]
  exact (hw.extents.trans h.extents).trans hextents.symm

theorem fits_rewound (v : Viewport) (g : Grid) :
    (((v.recomputeExtents g).setFirstRow 0).setFirstColumn 0).Fits g :=
  ((v.fits_recomputeExtents g).scrolled (scrolled_setFirstRow _ 0)).scrolled
    (scrolled_setFirstColumn _ 0)

end HexEditor.Viewport
