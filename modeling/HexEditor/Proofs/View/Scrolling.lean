import HexEditor.Proofs.View.Bounds
import HexEditor.Proofs.Word.Grid

/-!
# How far a view is scrolled

A call scrolls within the extents of the window, or it computes them anew. So data that has been
short since its source was installed keeps the scroll position near it, also while the extents are
those of a length that it no longer has.
-/

namespace HexEditor

-- ---------------------------------------------------------------------------
-- Extents of short data
-- ---------------------------------------------------------------------------

namespace Viewport

variable {x : Viewport} {g : Grid}

theorem Fits.rows_le (h : x.Fits g) (hl : g.layout.Valid) :
    x.extents.verticalMax * g.layout.bytesPerRow ≤ g.length + 3 * g.layout.bytesPerRow := by
  have hmax : x.extents.verticalMax ≤ divUp g.length g.layout.bytesPerRow + 2 := by
    rw [h.extents]
    simp only [recomputeExtents, extentsFor, marginRows]
    split
    · omega
    · omega
  have hrows : divUp g.length g.layout.bytesPerRow * g.layout.bytesPerRow ≤
    g.length + g.layout.bytesPerRow - 1 :=
    Nat.div_mul_le_self _ _
  have hproduct := Nat.mul_le_mul_right g.layout.bytesPerRow hmax
  have hpos := hl.row_pos
  rw [Nat.add_mul] at hproduct
  omega

theorem Fits.columns_le (h : x.Fits g) (hm : g.metrics.Valid) :
    x.extents.horizontalMax * g.metrics.charWidth ≤ g.contentWidth.toNat + g.metrics.charWidth := by
  have hmax : x.extents.horizontalMax ≤ g.contentWidth.toNat / g.metrics.charWidth + 1 := by
    rw [h.extents]
    simp only [recomputeExtents, extentsFor, Nat.max_eq_left hm.width_pos]
    split
    · exact Nat.succ_le_succ (Nat.div_le_div_right (Nat.sub_le _ _))
    · exact Nat.zero_le _
  have hcolumns := Nat.div_mul_le_self g.contentWidth.toNat g.metrics.charWidth
  have hproduct := Nat.mul_le_mul_right g.metrics.charWidth hmax
  rw [Nat.add_mul, Nat.one_mul] at hproduct
  omega

end Viewport

namespace View

variable [ByteSource σ] {v w : View σ}

/-- The window can be scrolled past short data by a margin, and past the content by a character. -/
structure Near (v : View σ) : Prop where
  firstRow_le : v.viewport.firstRow ≤ v.viewport.extents.verticalMax
  firstColumn_le : v.viewport.firstColumn ≤ v.viewport.extents.horizontalMax
  rows_le : v.viewport.extents.verticalMax * v.layout.bytesPerRow ≤ 2 ^ 62 + 3 * 4096
  columns_lt : v.viewport.extents.horizontalMax * v.metrics.charWidth < 2 ^ 23

omit [ByteSource σ] in
theorem Near.scrolls (h : v.Near) (hw : v.Scrolls w) : w.Near := by
  obtain ⟨hlayout, hmetrics, -, -, hextents, hrow, hcolumn⟩ := hw
  rw [Nat.max_eq_right h.firstRow_le] at hrow
  rw [Nat.max_eq_right h.firstColumn_le] at hcolumn
  refine ⟨hextents ▸ hrow, hextents ▸ hcolumn, ?_, ?_⟩
  · rw [hextents, hlayout]
    exact h.rows_le
  · rw [hextents, hmetrics]
    exact h.columns_lt

omit [ByteSource σ] in
theorem near_of_unscrolled (h : v.viewport = {}) : v.Near := by
  have hvertical : v.viewport.extents.verticalMax = 0 := by rw [h]
  have hhorizontal : v.viewport.extents.horizontalMax = 0 := by rw [h]
  refine ⟨?_, ?_, ?_, ?_⟩
  · exact h ▸ Nat.zero_le _
  · exact h ▸ Nat.zero_le _
  · rw [hvertical, Nat.zero_mul]
    decide
  · rw [hhorizontal, Nat.zero_mul]
    decide

theorem near_of_fits (hg : v.grid.Valid) (h : v.viewport.Fits v.grid)
    (hlength : v.length < 2 ^ 62) : v.Near := by
  have hrows : v.viewport.extents.verticalMax * v.layout.bytesPerRow ≤
      v.length + 3 * v.layout.bytesPerRow := h.rows_le hg.layout
  have hcolumns : v.viewport.extents.horizontalMax * v.metrics.charWidth ≤
    v.grid.contentWidth.toNat + v.metrics.charWidth :=
    h.columns_le hg.metrics
  have hbytes : v.layout.bytesPerRow ≤ 4096 := hg.layout.row_le
  have hwidth : v.metrics.charWidth ≤ 256 := hg.metrics.width_le
  have hcontent := (InWords.contentWidth_within hg).le
  exact ⟨h.firstRow_le, h.firstColumn_le, by omega, by omega⟩

/-- Views of data that has been shorter than `2 ^ 62` bytes ever since its source was installed. -/
inductive Short : View σ → Prop
  | new : Short {}
  | ofSettings {v : View σ} {given : Settings} (h : ofSettings given = .ok v) : Short v
  | reset {v : View σ} (h : v.Reachable fun _ _ => True) (source : Option σ)
    (hlength : (v.resetWith source).length < 2 ^ 62) :
      Short (v.resetWith source)
  | call {v : View σ} (h : Short v) (c : Call σ) (hlength : (c.apply v).length < 2 ^ 62) :
      Short (c.apply v)
  | outside {v : View σ} (h : Short v) (hs : v.source = some s)
      (hlength : ByteSource.length s' < 2 ^ 62) :
      Short { v with source := some s' }

theorem Short.reachable (h : v.Short) : v.Reachable fun _ _ => True := by
  induction h with
  | new => exact .new
  | ofSettings h => exact .ofSettings h
  | reset h source =>
    cases source with
    | none => exact h.call .uninstall
    | some source => exact h.call (.install source)
  | call _ c _ ih => exact ih.call c
  | outside _ hs _ ih => exact ih.outside hs trivial

theorem Short.length_lt (h : v.Short) : v.length < 2 ^ 62 := by
  cases h with
  | new => exact Nat.two_pow_pos 62
  | ofSettings h =>
    rw [ofSettings_ok h]
    exact Nat.two_pow_pos 62
  | reset _ _ hlength => exact hlength
  | call _ _ hlength => exact hlength
  | outside _ _ hlength => exact hlength

theorem Short.near (h : v.Short) : v.Near := by
  induction h with
  | new => exact near_of_unscrolled rfl
  | ofSettings h =>
    rw [ofSettings_ok h]
    exact near_of_unscrolled rfl
  | reset h source hlength =>
    exact near_of_fits (Short.reset h source hlength).reachable.valid
      (fits_resetWith _ source) hlength
  | call h c hlength ih =>
    obtain hscrolls | hfits := c.scrolls _
    · exact ih.scrolls hscrolls
    · exact near_of_fits (h.call c hlength).reachable.valid hfits hlength
  | outside _ _ _ ih => exact ⟨ih.firstRow_le, ih.firstColumn_le, ih.rows_le, ih.columns_lt⟩

end View

end HexEditor
