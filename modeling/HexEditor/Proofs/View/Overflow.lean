import HexEditor.Proofs.View.Scrolling
import HexEditor.Proofs.Word.Frame

/-!
# No overflow

The grid of a view and its frames can be computed with machine words. Layout and font bound each
factor on the way; the products are bounded because a view that can be reached is not scrolled far
from its data, and because its rows end at the lower edge of the window.
-/

namespace HexEditor

namespace InWords

abbrev SizeWord := Word (-0x8000000000000000) 0x8000000000000000

variable [ByteSource σ] (v : View σ)

def visibleRows : OffsetWord :=
  let room : SizeWord := max (.of v.viewport.height - (topPadding v.grid).cast) 0
  let rowHeight : OffsetWord := max (.of v.metrics.rowHeight) 1
  (room.cast + rowHeight - 1) / rowHeight

def grid : Option Grid := do
  return { v.grid with visibleRows := ← (visibleRows v).nat? }

def render (now : Nat) : Option Frame := do
  compose { v.scene (v.fetch now).1 with grid := ← grid v }

open Word

variable {v}

theorem visibleRows_within (hg : v.grid.Valid) (hheight : v.viewport.height < 2 ^ 31) :
    (visibleRows v).Within v.grid.visibleRows 0 0x800000FF := by
  have hrow : (of v.metrics.rowHeight : OffsetWord).Within v.metrics.rowHeight 0 256 :=
    within_of (by omega) (Int.ofNat_le.mpr hg.metrics.row_le) (by decide)
  have hrow' : (max (of v.metrics.rowHeight) 1 : OffsetWord).Within
      (max v.metrics.rowHeight 1 : Nat) 1 256 := by
    have hmax := hrow.max (within_self 1 (by decide)) (by decide)
    have hvalue : ((max v.metrics.rowHeight 1 : Nat) : Int) =
      max (v.metrics.rowHeight : Int) 1 := by omega
    rw [hvalue]
    exact hmax.mono (Int.le_max_right _ _) hmax.le
  have hroom : (max (of v.viewport.height - (topPadding v.grid).cast) 0 : SizeWord).Within
      (v.viewport.height - v.grid.topPadding).toNat 0 0x7FFFFFFF := by
    have hwindow : (of v.viewport.height : SizeWord).Within v.viewport.height 0 0x7FFFFFFF :=
      within_of (by omega) (by omega) (by decide)
    have hrest := hwindow.sub ((topPadding_within hg).cast (by decide)) (by decide)
    have hmax := hrest.max (within_self 0 (by decide)) (by decide)
    rw [Int.toNat_eq_max]
    exact hmax.mono (Int.le_max_right _ _) (Int.le_trans hmax.le (by decide))
  have hsum :=
    ((hroom.cast (by decide)).natAdd hrow' (by decide)).natSub one_within (by omega) (by decide)
  exact hsum.natDiv hrow' (by decide)

theorem grid_eq (hg : v.grid.Valid) (hheight : v.viewport.height < 2 ^ 31) : grid v = some v.grid :=
  (visibleRows_within hg hheight).nat?_bind _

theorem render_eq (hg : v.grid.Drawable) (hheight : v.viewport.height < 2 ^ 31)
    (hhover : ∀ p ∈ v.hover, p.1.natAbs ≤ 2 ^ 30 ∧ p.2.natAbs ≤ 2 ^ 30) (now : Nat) :
    render v now = some (v.render now).1 := by
  rw [render, bind_of_eq_some (grid_eq hg.valid hheight)]
  exact compose_eq (s := v.scene (v.fetch now).1) hg hhover

end InWords

namespace View

variable [ByteSource σ] {v : View σ}

theorem Short.drawable (hv : v.Short) (hheight : v.viewport.height < 2 ^ 31) : v.grid.Drawable := by
  have hg := hv.reachable.valid
  have hnear := hv.near
  refine ⟨hg, hv.length_lt, ?_, ?_, ?_⟩
  · exact Nat.le_trans (Nat.mul_le_mul_right _ hnear.firstRow_le) hnear.rows_le
  · exact Nat.lt_of_le_of_lt (Nat.mul_le_mul_right _ hnear.firstColumn_le) hnear.columns_lt
  · intro row hrow
    exact Int.lt_of_lt_of_le (Viewport.baseline_lt_height hg.metrics hrow) (by omega)

/-- The grid of a view, its frames and what lies under a point are computed without overflow, and
the rows begin above the lower edge of the window. -/
theorem Short.computed_in_words (hv : v.Short) (hheight : v.viewport.height < 2 ^ 31) :
    InWords.grid v = some v.grid ∧
    (InWords.firstByte v.grid).nat? = some v.grid.firstByte ∧
    (InWords.capacity v.grid).nat? = some v.grid.capacity ∧
    (2 * .of v.length : OffsetWord).nat? = some (2 * v.length) ∧
    (∀ nibble, InWords.nibbleVisible v.grid nibble = some (decide (v.grid.NibbleVisible nibble))) ∧
    (∀ row < v.grid.visibleRows,
      (InWords.baseline v.grid row).int? = some (v.grid.baseline row) ∧
      v.grid.baseline row < v.viewport.height ∧
        (InWords.rowTop v.grid row).int? = some (v.grid.rowTop row)) ∧
    (∀ x y : Int, x.natAbs ≤ 2 ^ 30 → y.natAbs ≤ 2 ^ 30 →
      InWords.paneAt? v.grid x y = some (v.grid.paneAt? x y) ∧
        InWords.nibbleAt? v.grid x y = some (v.grid.nibbleAt? x y)) ∧
    (∀ hover, (∀ p ∈ hover, p.1.natAbs ≤ 2 ^ 30 ∧ p.2.natAbs ≤ 2 ^ 30) →
      ∀ now, InWords.render { v with hover } now = some ({ v with hover }.render now).1) := by
  have hg := hv.drawable hheight
  refine ⟨InWords.grid_eq hg.valid hheight, (InWords.firstByte_within hg).nat?,
    (InWords.capacity_within hg).nat?,
    (InWords.doubleLength_within hg).nat?, InWords.nibbleVisible_eq hg, ?_, ?_, ?_⟩
  · intro row hrow
    have hlt := hg.baseline_lt row hrow
    refine ⟨(InWords.baseline_within hg.valid hlt).int?, ?_,
      (InWords.rowTop_within hg.valid hlt).int?⟩
    rw [hg.valid.baseline_eq hlt, hg.valid.rowHeight_eq]
    exact Viewport.baseline_lt_height hg.valid.metrics hrow
  · intro x y hx hy
    exact ⟨InWords.paneAt?_eq hg x y, InWords.nibbleAt?_eq hg hx hy⟩
  · intro hover hreach now
    exact InWords.render_eq (v := { v with hover }) hg hheight hreach now

/-- Scrolled past the end of the longest data. -/
theorem computed_in_words_far :
    let source : Scripted := { length := 2 ^ 62 - 1 }
    let v := (Call.setFirstRow (2 ^ 62)).apply
      ((Call.resize 100 17).apply (({} : View Scripted).resetWith (some source)))
    v.Short ∧ v.viewport.height < 2 ^ 31 ∧ 2 ^ 62 < v.grid.firstByte ∧
      InWords.render { v with hover := some (200, 20) } 0 =
        some ({ v with hover := some (200, 20) }.render 0).1 := by
  intro source v
  have hv : v.Short :=
    .call (.call (.reset .new (some source) (by decide)) (.resize 100 17) (by decide))
      (.setFirstRow (2 ^ 62)) (by decide)
  have hwords := hv.computed_in_words (by decide)
  refine ⟨hv, by decide, by decide, hwords.2.2.2.2.2.2.2 (some (200, 20)) ?_ 0⟩
  rintro p ⟨⟩
  decide

end View

end HexEditor
