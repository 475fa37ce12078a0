import HexEditor.Source

/-!
# Asking twice

Asking a source may change it: a paged source requests what is missing, and pages may arrive. But
bytes that it says are there stay there, so the same question asked again has the same answer and
changes nothing more.
-/

namespace HexEditor

/-- What a source keeps when it is asked, and when it has no change to report. -/
structure ByteSource.Repeats [ByteSource σ] (s : σ) : Prop where
  length : ∀ r, ByteSource.length (Probe.request s r).2 = ByteSource.length s
  request : ∀ r, (Probe.request s r).1 = true →
    Probe.request (Probe.request s r).2 r = Probe.request s r
  takeChange : (ByteSource.takeChange s).1 = false → (ByteSource.takeChange s).2 = s

theorem Memory.repeats (m : Memory) : ByteSource.Repeats m := by
  refine ⟨fun _ => rfl, fun _ _ => rfl, ?_⟩
  intro hchanged
  change { m with changed := false } = m
  rw [← show m.changed = false from hchanged]

theorem Mapped.repeats (m : Mapped) : ByteSource.Repeats m :=
  ⟨fun _ => rfl, fun _ _ => rfl, fun _ => rfl⟩

namespace Paged

theorem allIn_iff (known : List Nat) (first count : Nat) :
    allIn known first count = true ↔ ∀ p ∈ List.range' first count, p ∈ known := by
  induction count generalizing first with
  | zero => simp [allIn]
  | succ count ih => simp [allIn, ih, List.range'_succ]

theorem isFetched_iff (s : Paged σ) (r : ByteRange) :
    s.isFetched r = true ↔ ∀ p ∈ pages r, p ∈ s.fetched :=
  allIn_iff _ _ _

theorem touch_of_mem {s : Paged σ} (h : page ∈ s.fetched) : s.touch page = s := by
  simp [touch, h]

theorem touch_eq (s : Paged σ) (page : Nat) :
    s.touch page =
      { s with fetched := (s.touch page).fetched, pending := (s.touch page).pending } := by
  unfold touch
  repeat' split
  all_goals rfl

theorem foldl_touch_eq (s : Paged σ) (ps : List Nat) :
    ps.foldl touch s =
      { s with fetched := (ps.foldl touch s).fetched, pending := (ps.foldl touch s).pending } := by
  induction ps generalizing s with
  | nil => rfl
  | cons p ps ih =>
    rw [List.foldl_cons, ih, touch_eq]

theorem foldl_touch_of_mem {s : Paged σ} {ps : List Nat} (h : ∀ p ∈ ps, p ∈ s.fetched) :
    ps.foldl touch s = s := by
  induction ps with
  | nil => rfl
  | cons p ps ih =>
    rw [List.foldl_cons, touch_of_mem (h p List.mem_cons_self)]
    exact ih fun q hq => h q (List.mem_cons_of_mem p hq)

variable [ByteSource σ] {s : Paged σ} {r : ByteRange}

section
variable (hin : r.Within (ByteSource.length s.inner))
include hin

theorem request_of_detached (hdetached : s.detached = true) : s.request r = (s.isFetched r, s) := by
  rw [request, if_neg (not_not_intro hin), if_pos hdetached]

theorem request_of_attached (hattached : ¬ s.detached = true) :
    s.request r =
      let t := (pages r).foldl touch s
      if t.isFetched r then
        ((Probe.request s.inner r).1, { t with inner := (Probe.request s.inner r).2 })
      else (false, t) := by
  have hinner : ((pages r).foldl touch s).inner = s.inner := by rw [foldl_touch_eq]
  rw [request, if_neg (not_not_intro hin), if_neg hattached]
  simp only [hinner]

theorem request_of_fetched (hattached : ¬ s.detached = true) (hfetched : s.isFetched r = true) :
    s.request r =
      ((Probe.request s.inner r).1, { s with inner := (Probe.request s.inner r).2 }) := by
  rw [request_of_attached hin hattached, foldl_touch_of_mem ((isFetched_iff s r).mp hfetched)]
  exact if_pos hfetched

end

theorem length_request (h : ByteSource.Repeats s.inner) (r : ByteRange) :
    ByteSource.length (s.request r).2.inner = ByteSource.length s.inner := by
  by_cases hin : r.Within (ByteSource.length s.inner)
  · by_cases hdetached : s.detached = true
    · rw [request_of_detached hin hdetached]
    · rw [request_of_attached hin hdetached]
      simp only
      split
      · exact h.length r
      · rw [foldl_touch_eq]
  · rw [request, if_pos hin]

theorem request_request (h : ByteSource.Repeats s.inner) (hasked : (s.request r).1 = true) :
    (s.request r).2.request r = s.request r := by
  by_cases hin : r.Within (ByteSource.length s.inner)
  · by_cases hdetached : s.detached = true
    · rw [request_of_detached hin hdetached]
      exact request_of_detached hin hdetached
    · have hfirst := request_of_attached hin hdetached
      simp only at hfirst
      rw [hfirst] at hasked ⊢
      split at hasked
      · rename_i hfetched
        rw [if_pos hfetched]
        have hsame : ((pages r).foldl touch s).detached = s.detached := by rw [foldl_touch_eq]
        generalize (pages r).foldl touch s = t at hfetched hsame
        have hin' : r.Within (ByteSource.length (Probe.request s.inner r).2) := by rwa [h.length r]
        have hsecond :=
          request_of_fetched (s := { t with inner := (Probe.request s.inner r).2 }) hin'
          (hsame ▸ hdetached) hfetched
        rwa [h.request r hasked] at hsecond
      · cases hasked
  · rw [request, if_pos hin] at hasked
    cases hasked

theorem repeats (h : ByteSource.Repeats s.inner) : ByteSource.Repeats s := by
  refine ⟨length_request h, fun r => request_request h, ?_⟩
  intro hchanged
  obtain ⟨hself, hinner⟩ := Bool.or_eq_false_iff.mp hchanged
  change { s with inner := (ByteSource.takeChange s.inner).2, changed := false } = s
  rw [h.takeChange hinner, ← hself]

end Paged

end HexEditor
