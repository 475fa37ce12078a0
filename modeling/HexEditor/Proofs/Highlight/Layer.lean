import HexEditor.Highlight
import Mathlib.Algebra.Group.Int.Defs
import Mathlib.Algebra.Group.Nat.Defs

/-!
# The colors of a layer

A layer keeps its highlights in order and apart. So the lookup, which inspects only the nearest
start, finds the highlight that contains an offset whenever there is one, and a layer is known by
the colors that it gives to each offset: `erase` takes those of a span away and `insert` gives new
ones to a span.
-/

namespace HexEditor

-- ---------------------------------------------------------------------------
-- Lists that are cut where a condition ends
-- ---------------------------------------------------------------------------

theorem takeWhile_eq_filter {p : α → Bool} {l : List α} (h : l.Pairwise fun a b => p b → p a) :
    l.takeWhile p = l.filter p := by
  induction l with
  | nil => rfl
  | cons a l ih =>
    obtain ⟨ha, hl⟩ := List.pairwise_cons.mp h
    by_cases hp : p a
    · rw [List.takeWhile_cons_of_pos hp, List.filter_cons_of_pos hp, ih hl]
    · have hnone : l.filter p = [] := List.filter_eq_nil_iff.mpr fun b hb hpb => hp (ha b hb hpb)
      rw [List.takeWhile_cons_of_neg hp, List.filter_cons_of_neg hp, hnone]

theorem dropWhile_eq_filter {p : α → Bool} {l : List α} (h : l.Pairwise fun a b => p b → p a) :
    l.dropWhile p = l.filter (!p ·) := by
  induction l with
  | nil => rfl
  | cons a l ih =>
    obtain ⟨ha, hl⟩ := List.pairwise_cons.mp h
    by_cases hp : p a
    · rw [List.dropWhile_cons_of_pos hp, List.filter_cons_of_neg (by simp [hp]), ih hl]
    · have hall : l.filter (!p ·) = l := List.filter_eq_self.mpr fun b hb => by
        have := mt (ha b hb) hp
        simpa using this
      rw [List.dropWhile_cons_of_neg hp, List.filter_cons_of_pos (by simp [hp]), hall]

-- ---------------------------------------------------------------------------
-- Highlights
-- ---------------------------------------------------------------------------

theorem ByteRange.IsEmpty.not_contains {r : ByteRange} (h : r.IsEmpty) : ¬ r.Contains o := by
  unfold IsEmpty at h
  unfold Contains stop Offset.add
  omega

namespace Highlight

def colors (h : Highlight) : Option Color × Option Color :=
  (h.foreground, h.background)

def Before (a b : Highlight) : Prop :=
  a.start < b.start ∧ a.stop ≤ b.start

theorem stop_eq (h : Highlight) : h.stop = min (h.start + h.size) (2 ^ 64 - 1) :=
  rfl

variable {h x : Highlight} {span : ByteRange}

theorem Before.trans {a b c : Highlight} (hab : a.Before b) (hbc : b.Before c) : a.Before c := by
  unfold Before at *
  omega

/-- Of two highlights that are apart, the one that starts first comes first. A range that starts
past the largest offset ends before its start, so that is so for those as well. -/
theorem Before.of_apart {a b : Highlight} (hlt : a.start < b.start)
    (hapart : a.stop ≤ b.start ∨ b.stop ≤ a.start) :
    a.Before b := by
  simp only [Before, stop_eq] at *
  omega

theorem nodup_of_before {hs : List Highlight} (hbefore : hs.Pairwise Before) : hs.Nodup :=
  List.Pairwise.imp (fun {a b} hab (heq : a = b) => Nat.ne_of_lt hab.1 (congrArg start heq)) hbefore

theorem range_contains : h.range.Contains o ↔ h.start ≤ o ∧ o < h.stop :=
  .rfl

theorem mem_outside_iff :
    x ∈ h.outside span ↔
      (h.start < span.stop ∧ span.offset < h.stop) ∧
          (h.start < span.offset ∧ x = { h with size := span.offset - h.start } ∨
            span.stop < h.stop ∧ x = { h with start := span.stop, size := h.stop - span.stop }) ∨
        (span.stop ≤ h.start ∨ h.stop ≤ span.offset) ∧ x = h := by
  unfold outside
  split
  · rename_i hin
    simp only [List.mem_append, List.mem_ite_nil_right, List.mem_singleton]
    constructor
    · intro hx
      exact .inl ⟨hin, hx⟩
    · rintro (⟨-, hx⟩ | ⟨hout, -⟩)
      · exact hx
      · omega
  · rename_i hout
    rw [List.mem_singleton]
    constructor
    · intro hx
      exact .inr ⟨by omega, hx⟩
    · rintro (⟨hin, -⟩ | ⟨-, hx⟩)
      · exact absurd hin hout
      · exact hx

theorem mem_outside (hx : x ∈ h.outside span) :
    x.colors = h.colors ∧ h.start ≤ x.start ∧ (x.start = h.start ∨ x.start < h.stop) ∧
      x.stop ≤ h.stop ∧
      (x.stop ≤ span.offset ∨ span.stop ≤ x.start) := by
  rw [mem_outside_iff] at hx
  simp only [stop_eq] at *
  rcases hx with ⟨hin, ⟨hbefore, rfl⟩ | ⟨hafter, rfl⟩⟩ | ⟨hout, rfl⟩
  · refine ⟨rfl, ?_⟩
    simp only
    omega
  · refine ⟨rfl, ?_⟩
    simp only
    omega
  · refine ⟨rfl, ?_⟩
    omega

theorem exists_mem_outside :
    (∃ x ∈ h.outside span, x.range.Contains o) ↔ h.range.Contains o ∧ ¬ span.Contains o := by
  simp only [range_contains]
  unfold ByteRange.Contains
  constructor
  · rintro ⟨x, hx, ho⟩
    obtain ⟨-, hparts⟩ := mem_outside hx
    omega
  · rintro ⟨ho, hspan⟩
    by_cases hin : h.start < span.stop ∧ span.offset < h.stop
    · by_cases hside : o < span.offset
      · refine ⟨_, mem_outside_iff.mpr (.inl ⟨hin, .inl ⟨by omega, rfl⟩⟩), ?_⟩
        simp only [stop_eq] at *
        omega
      · refine ⟨_, mem_outside_iff.mpr (.inl ⟨hin, .inr ⟨by omega, rfl⟩⟩), ?_⟩
        simp only [stop_eq] at *
        omega
    · exact ⟨h, mem_outside_iff.mpr (.inr ⟨by omega, rfl⟩), ho⟩

theorem pairwise_outside (h : Highlight) (span : ByteRange) : (h.outside span).Pairwise Before := by
  unfold outside
  split
  · rename_i hin
    rw [List.pairwise_append]
    refine ⟨?_, ?_, ?_⟩
    · split <;> simp
    · split <;> simp
    · intro a ha b hb
      simp only [List.mem_ite_nil_right, List.mem_singleton] at ha hb
      obtain ⟨-, rfl⟩ := ha
      obtain ⟨-, rfl⟩ := hb
      simp only [Before, stop_eq, ByteRange.stop, Offset.add, Offset.top] at *
      omega
  · exact List.pairwise_singleton _ _

end Highlight

namespace Layer

def Ordered (l : Layer) : Prop :=
  l.highlights.Pairwise Highlight.Before

def paint (l : Layer) (o : Nat) : Option (Option Color × Option Color) :=
  (l.find? o).map Highlight.colors

variable {l : Layer} {h : Highlight}

theorem find?_eq_some_iff (hl : l.Ordered) :
    l.find? o = some h ↔ h ∈ l.highlights ∧ h.range.Contains o := by
  have hstarts : l.highlights.Pairwise fun a b => decide (b.start ≤ o) → decide (a.start ≤ o) := by
    refine hl.imp fun hab hb => ?_
    have := hab.1
    simp only [decide_eq_true_eq] at *
    omega
  rw [find?, takeWhile_eq_filter hstarts, Option.filter_eq_some_iff, decide_eq_true_eq]
  refine and_congr_left fun ho => ?_
  constructor
  · intro hlast
    exact (List.mem_filter.mp (List.mem_of_getLast? hlast)).1
  · intro hmem
    have hin : h ∈ l.highlights.filter (·.start ≤ o) :=
      List.mem_filter.mpr ⟨hmem, decide_eq_true (Highlight.range_contains.mp ho).1⟩
    obtain ⟨others, g, hsplit⟩ := (List.eq_nil_or_concat _).resolve_left (List.ne_nil_of_mem hin)
    rw [List.concat_eq_append] at hsplit
    have hg : g ∈ l.highlights.filter (·.start ≤ o) := by
      rw [hsplit]
      simp
    have hgo := of_decide_eq_true (List.mem_filter.mp hg).2
    have hbefore : (others ++ [g]).Pairwise Highlight.Before := hsplit ▸ hl.filter _
    rw [hsplit, List.mem_append] at hin
    rw [hsplit, List.getLast?_concat]
    rcases hin with hother | hlast
    · -- A highlight before the nearest start ends there.
      have hstop := ((List.pairwise_append.mp hbefore).2.2 h hother g (List.mem_singleton_self g)).2
      rw [Highlight.range_contains] at ho
      omega
    · rw [List.mem_singleton.mp hlast]

theorem paint_eq_some_iff (hl : l.Ordered) :
    l.paint o = some c ↔ ∃ h ∈ l.highlights, h.range.Contains o ∧ h.colors = c := by
  simp only [paint, Option.map_eq_some_iff, find?_eq_some_iff hl, and_assoc]

-- ---------------------------------------------------------------------------
-- Clearing a span
-- ---------------------------------------------------------------------------

theorem Ordered.erase (hl : l.Ordered) (span : ByteRange) : (l.erase span).Ordered := by
  unfold Layer.erase
  split
  · exact hl
  · rw [Ordered, List.pairwise_flatMap]
    refine ⟨fun h _ => h.pairwise_outside span, hl.imp fun {a b} hab x hx y hy => ?_⟩
    obtain ⟨-, hx⟩ := Highlight.mem_outside hx
    obtain ⟨-, hy⟩ := Highlight.mem_outside hy
    unfold Highlight.Before at *
    omega

theorem mem_erase (hspan : ¬ span.IsEmpty) (hx : x ∈ (l.erase span).highlights) :
    x.stop ≤ span.offset ∨ span.stop ≤ x.start := by
  rw [erase, if_neg hspan] at hx
  obtain ⟨h, -, hx⟩ := List.mem_flatMap.mp hx
  exact (Highlight.mem_outside hx).2.2.2.2

theorem apart_of_mem_erase (hsize : h.size ≠ 0) (hx : x ∈ (l.erase h.range).highlights) :
    x.stop ≤ h.start ∨ h.stop ≤ x.start :=
  mem_erase (show ¬ h.range.IsEmpty from hsize) hx

theorem exists_mem_erase :
    (∃ x ∈ (l.erase span).highlights, x.range.Contains o ∧ x.colors = c) ↔
      ¬ span.Contains o ∧ ∃ h ∈ l.highlights, h.range.Contains o ∧ h.colors = c := by
  by_cases hspan : span.IsEmpty
  · rw [erase, if_pos hspan]
    exact (and_iff_right hspan.not_contains).symm
  · rw [erase, if_neg hspan]
    simp only [List.mem_flatMap]
    constructor
    · rintro ⟨x, ⟨h, hh, hx⟩, ho, hc⟩
      obtain ⟨hoh, hout⟩ := Highlight.exists_mem_outside.mp ⟨x, hx, ho⟩
      exact ⟨hout, h, hh, hoh, (Highlight.mem_outside hx).1 ▸ hc⟩
    · rintro ⟨hout, h, hh, hoh, hc⟩
      obtain ⟨x, hx, ho⟩ := Highlight.exists_mem_outside.mpr ⟨hoh, hout⟩
      exact ⟨x, ⟨h, hh, hx⟩, ho, (Highlight.mem_outside hx).1.trans hc⟩

theorem paint_erase (hl : l.Ordered) (span : ByteRange) (o : Nat) :
    (l.erase span).paint o = if span.Contains o then none else l.paint o := by
  apply Option.ext
  intro c
  rw [paint_eq_some_iff (hl.erase span), exists_mem_erase, ← paint_eq_some_iff hl]
  split <;> simp [*]

-- ---------------------------------------------------------------------------
-- Coloring a span
-- ---------------------------------------------------------------------------

/-- A new highlight stands between those that start before it and those that start after it. -/
theorem insert_eq (hl : l.Ordered) (hsize : h.size ≠ 0) :
    (l.insert h).highlights =
      (l.erase h.range).highlights.filter (·.start < h.start) ++
        h :: (l.erase h.range).highlights.filter (h.start < ·.start) := by
  have hkept := hl.erase h.range
  have hbelow : (l.erase h.range).highlights.Pairwise
      fun a b => decide (b.start < h.start) → decide (a.start < h.start) := by
    refine hkept.imp fun hab hb => ?_
    have := hab.1
    simp only [decide_eq_true_eq] at *
    omega
  have hupto : (l.erase h.range).highlights.Pairwise
      fun a b => decide (b.start ≤ h.start) → decide (a.start ≤ h.start) := by
    refine hkept.imp fun hab hb => ?_
    have := hab.1
    simp only [decide_eq_true_eq] at *
    omega
  rw [Layer.insert, if_neg hsize]
  simp only [takeWhile_eq_filter hbelow, dropWhile_eq_filter hupto, ← decide_not, Nat.not_le]

theorem mem_insert_iff (hl : l.Ordered) (hsize : h.size ≠ 0) :
    x ∈ (l.insert h).highlights ↔ x = h ∨ x ∈ (l.erase h.range).highlights ∧ x.start ≠ h.start := by
  rw [insert_eq hl hsize]
  simp only [List.mem_append, List.mem_cons, List.mem_filter, decide_eq_true_eq]
  grind

theorem Ordered.insert (hl : l.Ordered) (h : Highlight) : (l.insert h).Ordered := by
  by_cases hsize : h.size = 0
  · rw [Layer.insert, if_pos hsize]
    exact hl
  · have hkept := hl.erase h.range
    have hbefore {x : Highlight}
        (hx : x ∈ (l.erase h.range).highlights.filter (·.start < h.start)) : x.Before h := by
      obtain ⟨hx, hlt⟩ := List.mem_filter.mp hx
      exact .of_apart (of_decide_eq_true hlt) (apart_of_mem_erase hsize hx)
    have hafter {x : Highlight} (hx : x ∈ (l.erase h.range).highlights.filter (h.start < ·.start)) :
        h.Before x := by
      obtain ⟨hx, hlt⟩ := List.mem_filter.mp hx
      exact .of_apart (of_decide_eq_true hlt) (apart_of_mem_erase hsize hx).symm
    rw [Ordered, insert_eq hl hsize, List.pairwise_append, List.pairwise_cons]
    refine ⟨hkept.filter _, ⟨fun b hb => hafter hb, hkept.filter _⟩, fun a ha b hb => ?_⟩
    rcases List.mem_cons.mp hb with rfl | hb
    · exact hbefore ha
    · exact (hbefore ha).trans (hafter hb)

theorem exists_mem_insert (hl : l.Ordered) (hsize : h.size ≠ 0) :
    (∃ x ∈ (l.insert h).highlights, x.range.Contains o ∧ x.colors = c) ↔
      h.range.Contains o ∧ h.colors = c ∨
        ∃ x ∈ (l.erase h.range).highlights, x.range.Contains o ∧ x.colors = c := by
  simp only [mem_insert_iff hl hsize]
  constructor
  · rintro ⟨x, rfl | ⟨hx, -⟩, ho⟩
    · exact .inl ho
    · exact .inr ⟨x, hx, ho⟩
  · rintro (ho | ⟨x, hx, ho, hc⟩)
    · exact ⟨h, .inl rfl, ho⟩
    · -- What is left in the layer and has an offset does not start where the new highlight does.
      have hne : x.start ≠ h.start := by
        have hapart := apart_of_mem_erase hsize hx
        rw [Highlight.range_contains] at ho
        simp only [Highlight.stop_eq] at *
        omega
      exact ⟨x, .inr ⟨hx, hne⟩, ho, hc⟩

theorem paint_insert (hl : l.Ordered) (h : Highlight) (o : Nat) :
    (l.insert h).paint o = if h.range.Contains o then some h.colors else l.paint o := by
  by_cases hsize : h.size = 0
  · have hempty : ¬ h.range.Contains o := ByteRange.IsEmpty.not_contains hsize
    rw [Layer.insert, if_pos hsize, if_neg hempty]
  · apply Option.ext
    intro c
    rw [paint_eq_some_iff (hl.insert h), exists_mem_insert hl hsize, exists_mem_erase,
      ← paint_eq_some_iff hl]
    split <;> simp [*]

end Layer

end HexEditor
