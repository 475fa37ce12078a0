import HexEditor.Proofs.Source.Paged
import HexEditor.Proofs.View.Resident

/-!
# How long a range takes to arrive

A page is missing until it is asked for; then it is pending, and each further request brings it one
step closer. A request touches every page of its range once, so the pages of a range that were asked
for together arrive together. `arrives_new` counts the requests: a remote memory with latency `k`
says `max k 1` times that a range is missing, and has it at the next request.
-/

namespace HexEditor

-- ---------------------------------------------------------------------------
-- Sources that have a range later
-- ---------------------------------------------------------------------------

namespace ByteSource

/-- A range is there: asking for it changes nothing, and it can be read. -/
structure Holds [ByteSource σ] (r : ByteRange) (data : Bytes) (s : σ) : Prop where
  quiet : takeChange s = (false, s)
  request : Probe.request s r = (true, s)
  read : read s r = .ok data

/-- A range is said to be missing `n` times, and is there at the request after that. Meanwhile the
source reports no change. -/
inductive Arrives [ByteSource σ] (r : ByteRange) (data : Bytes) : Nat → σ → Prop
  | now (hquiet : takeChange s = (false, s)) (hfound : Probe.request s r = (true, t))
      (hlength : length t = length s) (ht : Holds r data t) : Arrives r data 0 s
  | later (hquiet : takeChange s = (false, s)) (hmissing : Probe.request s r = (false, t))
      (htry : Probe.keepsTrying t = true) (hlength : length t = length s)
      (ht : Arrives r data n t) :
      Arrives r data (n + 1) s

variable [ByteSource σ] [ByteSource τ]

theorem Arrives.quiet {s : σ} (h : Arrives r data n s) : takeChange s = (false, s) := by
  cases h with
  | now hquiet => exact hquiet
  | later hquiet => exact hquiet

theorem Holds.inl {s : σ} (h : Holds r data s) : Holds r data (.inl s : σ ⊕ τ) where
  quiet := congrArg (fun x => (x.1, Sum.inl x.2)) h.quiet
  request := congrArg (fun x => (x.1, Sum.inl x.2)) h.request
  read := h.read

theorem Holds.inr {t : τ} (h : Holds r data t) : Holds r data (.inr t : σ ⊕ τ) where
  quiet := congrArg (fun x => (x.1, Sum.inr x.2)) h.quiet
  request := congrArg (fun x => (x.1, Sum.inr x.2)) h.request
  read := h.read

theorem Arrives.inl {s : σ} (h : Arrives r data n s) : Arrives r data n (.inl s : σ ⊕ τ) := by
  induction h with
  | now hquiet hfound hlength ht =>
    exact .now (congrArg (fun x => (x.1, Sum.inl x.2)) hquiet)
      (congrArg (fun x => (x.1, Sum.inl x.2)) hfound) hlength
      ht.inl
  | later hquiet hmissing htry hlength _ ih =>
    exact .later (congrArg (fun x => (x.1, Sum.inl x.2)) hquiet)
      (congrArg (fun x => (x.1, Sum.inl x.2)) hmissing) htry
      hlength ih

theorem Arrives.inr {t : τ} (h : Arrives r data n t) : Arrives r data n (.inr t : σ ⊕ τ) := by
  induction h with
  | now hquiet hfound hlength ht =>
    exact .now (congrArg (fun x => (x.1, Sum.inr x.2)) hquiet)
      (congrArg (fun x => (x.1, Sum.inr x.2)) hfound) hlength
      ht.inr
  | later hquiet hmissing htry hlength _ ih =>
    exact .later (congrArg (fun x => (x.1, Sum.inr x.2)) hquiet)
      (congrArg (fun x => (x.1, Sum.inr x.2)) hmissing) htry
      hlength ih

end ByteSource

namespace Paged

-- ---------------------------------------------------------------------------
-- One page
-- ---------------------------------------------------------------------------

inductive Standing
  | missing
  | pending (left : Nat)
  | fetched
deriving DecidableEq, Repr

def standing (s : Paged σ) (page : Nat) : Standing :=
  if page ∈ s.fetched then .fetched
  else
    match s.pending.lookup page with
    | none => .missing
    | some left => .pending left

def Standing.next (latency : Option Nat) : Standing → Standing
  | missing => pending (latency.getD (2 ^ 32 - 1))
  | pending left =>
    if latency.isNone then pending left else if left ≤ 1 then fetched else pending (left - 1)
  | fetched => fetched

theorem standing_eq_fetched {s : Paged σ} : s.standing page = .fetched ↔ page ∈ s.fetched := by
  unfold standing
  split
  · simp_all
  · split <;> simp_all

theorem lookup_filter_ne {pending : List (Nat × Nat)} (h : q ≠ page) :
    (pending.filter (·.1 ≠ page)).lookup q = pending.lookup q := by
  induction pending with
  | nil => rfl
  | cons entry rest ih =>
    by_cases hp : entry.1 = page
    · have hq : (q == entry.1) = false := by simpa [hp] using h
      rw [List.filter_cons_of_neg (by simpa using hp), List.lookup_cons, hq, ih]
    · rw [List.filter_cons_of_pos (by simpa using hp), List.lookup_cons, List.lookup_cons, ih]

theorem standing_touch_self (s : Paged σ) (page : Nat) :
    (s.touch page).standing page = (s.standing page).next s.latency := by
  by_cases hfetched : page ∈ s.fetched
  · simp [touch, standing, hfetched, Standing.next]
  cases hpending : s.pending.lookup page with
  | none => simp [touch, standing, hfetched, hpending, Standing.next]
  | some left =>
    cases hlatency : s.latency with
    | none => simp [touch, standing, hfetched, hpending, hlatency, Standing.next]
    | some k =>
      by_cases hleft : left ≤ 1 <;>
      simp [touch, standing, hfetched, hpending, hlatency, hleft, Standing.next]

theorem Touched.standing_of_ne {s t : Paged σ} (ht : s.Touched page t) (h : q ≠ page) :
    t.standing q = s.standing q := by
  have hq : (q == page) = false := by simpa using h
  cases ht with
  | kept => rfl
  | awaited => simp only [standing, List.lookup_cons, hq, lookup_filter_ne h]
  | arrived =>
    have hfetched : q ∈ (s.deliver page).fetched ↔ q ∈ s.fetched := by simp [mem_fetched_deliver, h]
    simp only [standing, hfetched]
    simp only [deliver, lookup_filter_ne h]

theorem standing_foldl_touch (s : Paged σ) {ps : List Nat} (hps : ps.Nodup) (page : Nat) :
    (ps.foldl touch s).standing page =
      if page ∈ ps then (s.standing page).next s.latency else s.standing page := by
  induction ps generalizing s with
  | nil => simp
  | cons p ps ih =>
    obtain ⟨hp, hps⟩ := List.nodup_cons.mp hps
    have hlatency : (s.touch p).latency = s.latency := by rw [touch_eq]
    rw [List.foldl_cons, ih _ hps, hlatency]
    by_cases heq : page = p
    · simp [heq, hp, standing_touch_self]
    · simp [heq, (s.touched_touch p).standing_of_ne heq]

-- ---------------------------------------------------------------------------
-- A range of a remote memory
-- ---------------------------------------------------------------------------

/-- A remote memory that delivers on its own and has no change to report, with all the pages of a
range equally far. -/
structure Awaits (s : Paged Memory) (r : ByteRange) (standing : Standing) : Prop where
  within : r.Within s.inner.bytes.size
  touches : pages r ≠ []
  attached : ¬ s.detached = true
  latency : s.latency.isSome = true
  quiet : (ByteSource.takeChange s).1 = false
  standing : ∀ page ∈ pages r, s.standing page = standing

section
variable {s : Paged Memory} {r : ByteRange} {x : Standing}

theorem takeChange_of_quiet (h : (ByteSource.takeChange s).1 = false) :
    ByteSource.takeChange s = (false, s) :=
  Prod.ext h ((Paged.repeats s.inner.repeats).takeChange h)

theorem Awaits.touch (h : s.Awaits r x) :
    ((pages r).foldl touch s).Awaits r (x.next s.latency) := by
  have hsame := s.foldl_touch_eq (pages r)
  constructor
  · rw [hsame]
    exact h.within
  · exact h.touches
  · rw [hsame]
    exact h.attached
  · rw [hsame]
    exact h.latency
  · rw [hsame]
    exact h.quiet
  · intro page hpage
    rw [standing_foldl_touch s (nodup_pages r), if_pos hpage, h.standing page hpage]

theorem Awaits.isFetched_iff (h : s.Awaits r x) : s.isFetched r = true ↔ x = .fetched := by
  rw [Paged.isFetched_iff]
  constructor
  · intro hall
    obtain ⟨page, hpage⟩ := List.exists_mem_of_ne_nil _ h.touches
    rw [← h.standing page hpage]
    exact standing_eq_fetched.mpr (hall page hpage)
  · intro hx page hpage
    exact standing_eq_fetched.mp (hx ▸ h.standing page hpage)

theorem Awaits.request_eq (h : s.Awaits r x) :
    s.request r = (decide (x.next s.latency = .fetched), (pages r).foldl Paged.touch s) := by
  have hfetched := h.touch.isFetched_iff
  rw [request_of_attached h.within h.attached]
  by_cases hx : x.next s.latency = .fetched
  · simp only [hfetched.mpr hx, if_true]
    refine Prod.ext ?_ ?_
    · rw [decide_eq_true hx]
      exact decide_eq_true h.within
    · rw [foldl_touch_eq]
      rfl
  · have hmissing : ¬ ((pages r).foldl Paged.touch s).isFetched r = true :=
      fun hall => hx (hfetched.mp hall)
    simp [hmissing, hx]

theorem inner_foldl_touch (s : Paged σ) (ps : List Nat) :
    (ps.foldl Paged.touch s).inner = s.inner := by
  rw [foldl_touch_eq]

theorem Awaits.arrives_now (h : s.Awaits r x) (hx : x.next s.latency = .fetched) :
    ByteSource.Arrives r (s.inner.bytes.extract r.offset (r.offset + r.length)) 0 s := by
  have htouched := h.touch
  have hhas : ((pages r).foldl Paged.touch s).Has r :=
    ⟨htouched.within, htouched.isFetched_iff.mpr hx⟩
  have hread := hhas.read_eq
  rw [inner_foldl_touch] at hread
  refine .now (takeChange_of_quiet h.quiet) ?_ ?_
    ⟨takeChange_of_quiet htouched.quiet, hhas.request_eq, hread⟩
  · rw [← decide_eq_true hx]
    exact h.request_eq
  · exact congrArg (fun inner : Memory => inner.bytes.size) (s.inner_foldl_touch (pages r))

theorem Awaits.arrives_later (h : s.Awaits r x) (hx : x.next s.latency ≠ .fetched)
    (ht : ByteSource.Arrives r data n ((pages r).foldl Paged.touch s)) :
    ByteSource.Arrives r data (n + 1) s := by
  refine .later (takeChange_of_quiet h.quiet) ?_ ?_ ?_ ht
  · rw [← decide_eq_false hx]
    exact h.request_eq
  · have hattached := h.touch.attached
    change (!((pages r).foldl Paged.touch s).detached && true) = true
    simpa using hattached
  · exact congrArg (fun inner : Memory => inner.bytes.size) (s.inner_foldl_touch (pages r))

theorem Awaits.arrives (h : s.Awaits r (.pending left)) :
    ByteSource.Arrives r (s.inner.bytes.extract r.offset (r.offset + r.length))
      (max left 1 - 1) s := by
  have hlatency : s.latency.isNone = false := by simpa using h.latency
  induction left generalizing s with
  | zero => exact h.arrives_now (by simp [Standing.next, hlatency])
  | succ left ih =>
    cases left with
    | zero => exact h.arrives_now (by simp [Standing.next, hlatency])
    | succ left =>
      have hnext : Standing.next s.latency (.pending (left + 2)) = .pending (left + 1) := by
        simp [Standing.next, hlatency]
      have htouched := h.touch
      rw [hnext] at htouched
      have harrives := ih htouched (by simpa using htouched.latency)
      rw [inner_foldl_touch] at harrives
      have hcount : max (left + 1 + 1) 1 - 1 = max (left + 1) 1 - 1 + 1 := by omega
      rw [hcount]
      exact h.arrives_later (by simp [hnext]) harrives

end

/-- A remote memory with latency `k` says `max k 1` times that a range is missing, and has it at the
next request. -/
theorem arrives_new {m : Memory} (hchanged : m.changed = false) {r : ByteRange} (hr : ¬ r.IsEmpty)
    (hstop : r.offset + r.length ≤ m.bytes.size) (htop : m.bytes.size < 2 ^ 64) (k : Nat) :
    ByteSource.Arrives r (m.bytes.extract r.offset (r.offset + r.length)) (max k 1)
      ({ inner := m, latency := some k } : Paged Memory) := by
  have h : Awaits { inner := m, latency := some k } r .missing := by
    refine ⟨ByteRange.within_of_le hstop, ?_, Bool.false_ne_true, rfl, hchanged, fun page _ => rfl⟩
    have hlength : r.length ≠ 0 := hr
    have hfirst : r.offset < r.stop := by
      simp only [ByteRange.stop, Offset.add, Offset.top]
      omega
    exact List.ne_nil_of_mem (div_mem_pages (Nat.le_refl _) hfirst)
  have harrives := h.touch.arrives
  rw [inner_foldl_touch] at harrives
  have hcount : max k 1 = max k 1 - 1 + 1 := by omega
  rw [hcount]
  exact h.arrives_later (by simp [Standing.next]) harrives

end Paged

end HexEditor
