import HexEditor.Proofs.Source.Countdown
import Mathlib.Logic.Function.Iterate

/-!
# When a page arrives

Each page of a remote source has a countdown of its own. A request advances it if it is within the
data, is not empty and has a byte on the page, however the ranges overlap; no other request does.
`run_arrived_iff` counts the requests that advance a page: with latency `k` it is pending from the
first of them on, and is there at number `max k 1 + 1`.
-/

namespace HexEditor

/-- However often the source is asked, its length stays the same. -/
def ByteSource.Constant [ByteSource σ] (s : σ) : Prop :=
  ∀ asked : List ByteRange, length (asked.foldl (fun s r => (Probe.request s r).2) s) = length s

namespace ByteSource.Constant

variable [ByteSource σ] {s : σ}

theorem length_request (h : Constant s) (r : ByteRange) : length (Probe.request s r).2 = length s :=
  h [r]

theorem request (h : Constant s) (r : ByteRange) : Constant (Probe.request s r).2 := by
  intro asked
  rw [h.length_request r]
  exact h (r :: asked)

theorem of_length_request (h : ∀ (s : σ) r, length (Probe.request s r).2 = length s) (s : σ) :
    Constant s := by
  intro asked
  induction asked generalizing s with
  | nil => rfl
  | cons r asked ih => exact (ih _).trans (h s r)

end ByteSource.Constant

namespace Paged

-- ---------------------------------------------------------------------------
-- The requests that count for a page
-- ---------------------------------------------------------------------------

/-- A request that is within the data, is not empty and has a byte on a page. Offsets of bytes are
64-bit words. -/
structure Advances (length page : Nat) (r : ByteRange) : Prop where
  within : r.Within length
  nonempty : ¬ r.IsEmpty
  reaches : ∃ i ≤ Offset.top, r.offset ≤ i ∧ i < r.offset + r.length ∧ i / pageSize = page

theorem mem_pages_iff {r : ByteRange} (hr : ¬ r.IsEmpty) :
    page ∈ pages r ↔ ∃ i ≤ Offset.top, r.offset ≤ i ∧ i < r.offset + r.length ∧
      i / pageSize = page := by
  have hlength : r.length ≠ 0 := hr
  simp only [pages, pageSpan, if_neg hr, List.mem_range'_1, divUp, ByteRange.stop, Offset.add,
    Offset.top, pageSize]
  constructor
  · intro hpage
    refine ⟨max r.offset (256 * page), ?_, ?_, ?_, ?_⟩
    all_goals omega
  · rintro ⟨i, htop, hfirst, hlast, rfl⟩
    omega

theorem advances_iff {r : ByteRange} :
    Advances length page r ↔ r.Within length ∧ page ∈ pages r := by
  constructor
  · rintro ⟨hin, hr, hreaches⟩
    exact ⟨hin, (mem_pages_iff hr).mpr hreaches⟩
  · rintro ⟨hin, hpage⟩
    have hr : ¬ r.IsEmpty := by
      intro hempty
      simp [pages, pageSpan, hempty] at hpage
    exact ⟨hin, hr, (mem_pages_iff hr).mp hpage⟩

instance decidableAdvances (length page : Nat) (r : ByteRange) :
    Decidable (Advances length page r) :=
  decidable_of_iff _ advances_iff.symm

-- ---------------------------------------------------------------------------
-- One request
-- ---------------------------------------------------------------------------

/-- A source that delivers on its own, over data of constant length. -/
structure Delivers [ByteSource σ] (k : Nat) (s : Paged σ) : Prop where
  attached : ¬ s.detached = true
  latency : s.latency = some k
  constant : ByteSource.Constant s.inner
  orderly : s.Orderly

section
variable [ByteSource σ] {s : Paged σ}

/-- A request within the data touches the pages of its range; then the source below may be asked. -/
theorem request_eq_touch (hattached : ¬ s.detached = true) (r : ByteRange) :
    ∃ inner, (inner = s.inner ∨ inner = (Probe.request s.inner r).2) ∧
      (s.request r).2 =
        { (if r.Within (ByteSource.length s.inner) then (pages r).foldl touch s
          else s) with inner } := by
  by_cases hin : r.Within (ByteSource.length s.inner)
  · rw [request_of_attached hin hattached, if_pos hin]
    simp only
    split
    · exact ⟨_, .inr rfl, rfl⟩
    · exact ⟨s.inner, .inl rfl, by rw [foldl_touch_eq]⟩
  · rw [request, if_pos hin, if_neg hin]
    exact ⟨s.inner, .inl rfl, rfl⟩

theorem Delivers.request (h : s.Delivers k) (r : ByteRange) :
    (s.request r).2.Delivers k ∧ ByteSource.length (s.request r).2.inner =
    ByteSource.length s.inner := by
  obtain ⟨inner, hinner, heq⟩ := request_eq_touch h.attached r
  have hconstant : ByteSource.Constant inner ∧
    ByteSource.length inner = ByteSource.length s.inner := by
    rcases hinner with rfl | rfl
    · exact ⟨h.constant, rfl⟩
    · exact ⟨h.constant.request r, h.constant.length_request r⟩
  rw [heq]
  refine ⟨?_, hconstant.2⟩
  split
  · have horderly := h.orderly.foldl_touch h.attached (pages r)
    have hsame := s.foldl_touch_eq (pages r)
    refine ⟨?_, ?_, hconstant.1, horderly.apart, horderly.detached⟩
    · rw [hsame]
      exact h.attached
    · rw [hsame]
      exact h.latency
  · exact ⟨h.attached, h.latency, hconstant.1, h.orderly.apart, h.orderly.detached⟩

theorem Delivers.standing_request (h : s.Delivers k) (r : ByteRange) (page : Nat) :
    (s.request r).2.standing page =
      if Advances (ByteSource.length s.inner) page r then (s.standing page).next (some k)
      else s.standing page := by
  obtain ⟨inner, -, heq⟩ := request_eq_touch h.attached r
  rw [heq]
  simp only [advances_iff]
  by_cases hin : r.Within (ByteSource.length s.inner)
  · have htouched := s.standing_foldl_touch (nodup_pages r) page
    rw [h.latency] at htouched
    simp only [hin, if_true, true_and]
    exact htouched
  · simp only [hin, if_false, false_and]
    rfl

-- ---------------------------------------------------------------------------
-- Many requests
-- ---------------------------------------------------------------------------

theorem Delivers.run (h : s.Delivers k) (asked : List ByteRange) :
    (s.run (asked.map .request)).Delivers k ∧
      ByteSource.length (s.run (asked.map .request)).inner = ByteSource.length s.inner := by
  induction asked generalizing s with
  | nil => exact ⟨h, rfl⟩
  | cons r asked ih =>
    obtain ⟨hnext, hlength⟩ := h.request r
    obtain ⟨hlast, hsame⟩ := ih hnext
    exact ⟨hlast, hsame.trans hlength⟩

theorem Delivers.standing_run (h : s.Delivers k) (asked : List ByteRange) (page : Nat) :
    (s.run (asked.map .request)).standing page =
      (Standing.next (some k))^[asked.countP
        (Advances (ByteSource.length s.inner) page ·)] (s.standing page) := by
  induction asked generalizing s with
  | nil => rfl
  | cons r asked ih =>
    obtain ⟨hnext, hlength⟩ := h.request r
    have hrest := ih hnext
    rw [hlength, h.standing_request r page] at hrest
    refine Eq.trans hrest ?_
    by_cases hr : Advances (ByteSource.length s.inner) page r
    · simp [hr, Function.iterate_succ_apply]
    · simp [hr]

end

-- ---------------------------------------------------------------------------
-- The countdown
-- ---------------------------------------------------------------------------

/-- How far a page has come after a number of requests that advance it, if pages take `k`
requests. -/
def Standing.after (k : Nat) : Nat → Standing
  | 0 => missing
  | n + 1 => if n < max k 1 then pending (k - n) else fetched

theorem Standing.next_after (k n : Nat) : (after k n).next (some k) = after k (n + 1) := by
  cases n with
  | zero => simp [after, next]
  | succ n =>
    simp only [after]
    split
    · simp only [next, Option.isNone_some, Bool.false_eq_true, if_false]
      split
      · rw [if_neg (by omega)]
      · rw [if_pos (by omega), Nat.sub_sub]
    · rw [if_neg (by omega)]
      rfl

theorem Standing.iterate_next_missing (k n : Nat) : (next (some k))^[n] missing = after k n := by
  induction n with
  | zero => rfl
  | succ n ih => rw [Function.iterate_succ_apply', ih, next_after]

theorem Standing.after_eq_fetched_iff : after k n = fetched ↔ max k 1 + 1 ≤ n := by
  cases n with
  | zero => simp [after]
  | succ n =>
    simp only [after]
    split
    · simp only [reduceCtorEq, false_iff]
      omega
    · simp only [true_iff]
      omega

theorem Standing.after_eq_pending_iff :
    (∃ left, after k n = pending left) ↔ 1 ≤ n ∧ n < max k 1 + 1 := by
  cases n with
  | zero => simp [after]
  | succ n =>
    simp only [after]
    split
    · simp only [pending.injEq, exists_eq', true_iff]
      omega
    · simp only [reduceCtorEq, exists_false, false_iff]
      omega

-- ---------------------------------------------------------------------------
-- The lists of pages
-- ---------------------------------------------------------------------------

section
variable {s t : Paged σ}

theorem mem_pending_iff :
    page ∈ s.pending.map (·.1) ↔ ∃ left, s.pending.lookup page = some left := by
  rw [← Option.isSome_iff_exists, List.lookup_isSome_iff, List.mem_map]
  simp only [beq_iff_eq, eq_comm (a := page)]

theorem Orderly.lookup_eq_some_iff (h : s.Orderly) :
    s.pending.lookup page = some left ↔ s.standing page = .pending left := by
  unfold standing
  split
  · rename_i hfetched
    have hmissing : ¬ ∃ left, s.pending.lookup page = some left := fun hpending =>
      h.apart page hfetched (mem_pending_iff.mpr hpending)
    simpa using fun hleft => hmissing ⟨left, hleft⟩
  · cases s.pending.lookup page with
    | none => simp
    | some _ => simp

theorem Orderly.listed_of_standing (hs : s.Orderly) (ht : t.Orderly)
    (h : t.standing page = s.standing page) :
    (page ∈ t.fetched ↔ page ∈ s.fetched) ∧ t.pending.lookup page = s.pending.lookup page := by
  refine ⟨?_, Option.ext fun left => ?_⟩
  · rw [← standing_eq_fetched, ← standing_eq_fetched, h]
  · rw [ht.lookup_eq_some_iff, hs.lookup_eq_some_iff, h]

end

/-- A page of a remote source with latency `k` is there when `max k 1 + 1` requests have advanced
it, and is pending from the first of them until then. Other requests leave it as it is, the number
of requests to come included. -/
theorem run_arrived_iff [ByteSource σ] {inner : σ} (hconstant : ByteSource.Constant inner)
    (k page : Nat) (asked : List ByteRange) :
    let s := run { inner, latency := some k } (asked.map .request)
    let count := asked.countP (Advances (ByteSource.length inner) page ·)
    (page ∈ s.fetched ↔ max k 1 + 1 ≤ count) ∧
    (page ∈ s.pending.map (·.1) ↔ 1 ≤ count ∧ count < max k 1 + 1) ∧
    ∀ r, ¬ Advances (ByteSource.length inner) page r →
      let t := (Probe.request s r).2
      (page ∈ t.fetched ↔ page ∈ s.fetched) ∧ t.pending.lookup page = s.pending.lookup page := by
  intro s count
  have hnew : Delivers k { inner, latency := some k } :=
    ⟨Bool.false_ne_true, rfl, hconstant, orderly_new inner (some k)⟩
  obtain ⟨hrun, hlength⟩ := hnew.run asked
  have hstanding : s.standing page = .after k count :=
    (hnew.standing_run asked page).trans (Standing.iterate_next_missing k count)
  refine ⟨?_, ?_, ?_⟩
  · rw [← standing_eq_fetched, hstanding, Standing.after_eq_fetched_iff]
  · have horderly : s.Orderly := hrun.orderly
    simp only [mem_pending_iff, horderly.lookup_eq_some_iff, hstanding,
      Standing.after_eq_pending_iff]
  · intro r hr t
    apply hrun.orderly.listed_of_standing (hrun.request r).1.orderly
    change (s.request r).2.standing page = s.standing page
    rw [hrun.standing_request, hlength, if_neg hr]

/-- Ranges that overlap, one that leaves the data and an empty one. The second page arrives at the
third request that has a byte on it; the third page has been asked for once. -/
theorem run_arrived_overlapping :
    let inner : Scripted := { length := 600, script := { answers := [true, false] } }
    let asked : List ByteRange := [⟨0, 1⟩, ⟨250, 10⟩, ⟨300, 400⟩, ⟨300, 0⟩, ⟨255, 300⟩, ⟨256, 256⟩]
    let s := run { inner, latency := some 2 } (asked.map .request)
    ByteSource.Constant inner ∧ 1 ∈ s.fetched ∧ 2 ∈ s.pending.map (·.1) ∧
      (Probe.request s ⟨599, 2⟩).2.pending.lookup 2 = s.pending.lookup 2 := by
  intro inner asked
  have hconstant : ByteSource.Constant inner := .of_length_request (fun _ _ => rfl) inner
  obtain ⟨hsecond, -, -⟩ := run_arrived_iff hconstant 2 1 asked
  obtain ⟨-, hthird, hother⟩ := run_arrived_iff hconstant 2 2 asked
  refine ⟨hconstant, hsecond.mpr ?_, hthird.mpr ?_, (hother ⟨599, 2⟩ ?_).2⟩
  · decide +kernel
  · decide +kernel
  · decide +kernel

end Paged

end HexEditor
