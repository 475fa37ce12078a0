import HexEditor.Proofs.Poller
import HexEditor.Proofs.Source.Memory
import HexEditor.Proofs.Source.Repeats
import Mathlib.Algebra.Group.Int.Defs
import Mathlib.Algebra.Group.Nat.Defs

/-!
# Pages that have arrived stay

A page of a remote source is missing, then pending, then fetched. It never goes back, however
requests, deliveries, edits and the loss of the remote end follow on each other. `run_available`
says what a viewer gains by that: a range that was said to be there can be read from then on, so a
fetch that was told so never fails.
-/

namespace HexEditor

/-- A check that succeeds has asked for the bytes or needs none; a source that keeps its word then
gives them. -/
theorem Poller.fetch_of_check [ByteSource σ] {p : Poller} {source : σ} {region : ByteRange}
    (hread : (Probe.request source region).1 = true →
      ∃ data, ByteSource.read (Probe.request source region).2 region = .ok data)
    (h : (p.check source region now).1 = true) :
    ∃ data, p.fetch source region now = (some data, (p.check source region now).2) := by
  unfold check at h ⊢
  rw [fetch_eq]
  split at h
  · cases h
  rename_i hstatus
  split at h
  · rename_i hregion
    exact ⟨#[], by simp [hstatus, hregion]⟩
  rename_i hregion
  cases hasked : (Probe.request source region).1 with
  | false => simp [hasked] at h
  | true =>
    obtain ⟨data, hdata⟩ := hread hasked
    exact ⟨data, by simp [hstatus, hregion, hasked, hdata]⟩

namespace Paged

/-- What a viewer and the owner of a paged source can do to it. -/
inductive Op
  | request (r : ByteRange)
  | read (r : ByteRange)
  | write (offset : Nat) (new : Bytes)
  | fetchPending
  | prefetch (r : ByteRange)
  | detach
  | takeChange

/-- The source after an operation. Reading changes nothing, nor does a write that is refused. -/
def Op.apply [ByteSource σ] (s : Paged σ) : Op → Paged σ
  | request r => (Probe.request s r).2
  | read _ => s
  | write offset new =>
    match ByteSource.write s offset new with
    | .ok written => written
    | .error _ => s
  | fetchPending => s.fetchPending
  | prefetch r => s.prefetch r
  | detach => s.detach
  | takeChange => (ByteSource.takeChange s).2

def run [ByteSource σ] (s : Paged σ) (ops : List Op) : Paged σ :=
  ops.foldl Op.apply s

-- ---------------------------------------------------------------------------
-- The pages of a range
-- ---------------------------------------------------------------------------

theorem nodup_pages (r : ByteRange) : (pages r).Nodup :=
  List.nodup_range'

theorem div_mem_pages {r : ByteRange} (hi : r.offset ≤ i) (hstop : i < r.stop) :
    i / pageSize ∈ pages r := by
  have hne : ¬ r.IsEmpty := by
    intro hempty
    have hlength : r.length = 0 := hempty
    simp only [ByteRange.stop, Offset.add] at hstop
    omega
  simp only [pages, pageSpan, if_neg hne, List.mem_range'_1, divUp, pageSize]
  omega

-- ---------------------------------------------------------------------------
-- Pending and fetched
-- ---------------------------------------------------------------------------

/-- What touching a page can make of a source. A page that arrives on its own is delivered like any
other. -/
inductive Touched (s : Paged σ) (page : Nat) : Paged σ → Prop
  | kept : Touched s page s
  | awaited (h : page ∉ s.fetched) (left : Nat) :
      Touched s page { s with pending := (page, left) :: s.pending.filter (·.1 ≠ page) }
  | arrived : Touched s page (s.deliver page)

theorem filter_of_lookup_none {pending : List (Nat × Nat)} (h : pending.lookup page = none) :
    pending.filter (·.1 ≠ page) = pending := by
  rw [List.filter_eq_self]
  intro entry hentry
  have hne := List.lookup_eq_none_iff.mp h entry hentry
  grind

theorem touched_touch (s : Paged σ) (page : Nat) : s.Touched page (s.touch page) := by
  unfold touch
  split
  · exact .kept
  rename_i hfetched
  have hmissing : page ∉ s.fetched := by simpa using hfetched
  split
  · rename_i hlookup
    rw [← filter_of_lookup_none hlookup]
    exact .awaited hmissing _
  · exact .kept
  · simp only
    split
    · have harrived : s.deliver page =
          { s with pending := s.pending.filter (·.1 ≠ page), fetched := page :: s.fetched } := by
        simp [deliver, hmissing]
      rw [← harrived]
      exact .arrived
    · exact .awaited hmissing _

/-- No page is both pending and fetched, and nothing is awaited from a remote end that is gone. -/
structure Orderly (s : Paged σ) : Prop where
  apart : ∀ page ∈ s.fetched, page ∉ s.pending.map (·.1)
  detached : s.detached = true → s.pending = []

section
variable {s t : Paged σ}

theorem mem_fetched_deliver : q ∈ (s.deliver page).fetched ↔ q = page ∨ q ∈ s.fetched := by
  unfold deliver
  simp only
  split
  · constructor
    · exact .inr
    · rintro (rfl | hq)
      · simpa using ‹s.fetched.contains _ = true›
      · exact hq
  · exact List.mem_cons

theorem orderly_new (inner : σ) (latency : Option Nat) : Orderly { inner, latency } :=
  ⟨by simp, by simp⟩

theorem Orderly.deliver (h : s.Orderly) (page : Nat) : (s.deliver page).Orderly := by
  constructor
  · intro q hq
    rcases mem_fetched_deliver.mp hq with rfl | hq
    · simp [Paged.deliver]
    · have hapart := h.apart q hq
      simp only [Paged.deliver, List.mem_map, List.mem_filter] at hapart ⊢
      rintro ⟨entry, ⟨hentry, -⟩, rfl⟩
      exact hapart ⟨entry, hentry, rfl⟩
  · intro hdetached
    simp [Paged.deliver, h.detached hdetached]

theorem Orderly.touched (h : s.Orderly) (hattached : ¬ s.detached = true) (ht : s.Touched page t) :
    t.Orderly := by
  cases ht with
  | kept => exact h
  | arrived => exact h.deliver page
  | awaited hmissing left =>
    refine ⟨?_, fun hdetached => absurd hdetached hattached⟩
    intro q hq
    have hapart := h.apart q hq
    simp only [List.map_cons, List.mem_cons, List.mem_map, List.mem_filter] at hapart ⊢
    rintro (rfl | ⟨entry, ⟨hentry, -⟩, rfl⟩)
    · exact hmissing hq
    · exact hapart ⟨entry, hentry, rfl⟩

theorem mem_fetched_touched (ht : s.Touched page t) (hq : q ∈ s.fetched) : q ∈ t.fetched := by
  cases ht with
  | kept | awaited => exact hq
  | arrived => exact mem_fetched_deliver.mpr (.inr hq)

theorem Orderly.foldl_touch (h : s.Orderly) (hattached : ¬ s.detached = true) (ps : List Nat) :
    (ps.foldl touch s).Orderly := by
  -- Touching neither loses nor regains the remote end.
  have hboth : (ps.foldl touch s).Orderly ∧ ¬ (ps.foldl touch s).detached = true := by
    apply List.foldlRecOn (motive := fun u : Paged σ => u.Orderly ∧ ¬ u.detached = true)
    · exact ⟨h, hattached⟩
    · intro u hu page _
      refine ⟨hu.1.touched hu.2 (u.touched_touch page), ?_⟩
      rw [touch_eq]
      exact hu.2
  exact hboth.1

theorem Orderly.prefetch (h : s.Orderly) (r : ByteRange) : (s.prefetch r).Orderly :=
  List.foldlRecOn (pages r) Paged.deliver h fun _ hu page _ => hu.deliver page

theorem Orderly.fetchPending (h : s.Orderly) : s.fetchPending.Orderly := by
  unfold Paged.fetchPending
  split
  · exact h
  · exact ⟨by simp, by simp⟩

theorem orderly_detach (s : Paged σ) : s.detach.Orderly :=
  ⟨by simp [detach], fun _ => rfl⟩

end

-- ---------------------------------------------------------------------------
-- What no operation takes back
-- ---------------------------------------------------------------------------

structure Keeps (s t : Paged Memory) : Prop where
  fetched : ∀ page ∈ s.fetched, page ∈ t.fetched
  size : t.inner.bytes.size = s.inner.bytes.size

variable {s t u : Paged Memory} {r : ByteRange}

theorem Keeps.refl (s : Paged Memory) : s.Keeps s :=
  ⟨fun _ => id, rfl⟩

theorem Keeps.trans (h : s.Keeps t) (h' : t.Keeps u) : s.Keeps u :=
  ⟨fun page hpage => h'.fetched page (h.fetched page hpage), h'.size.trans h.size⟩

theorem request_memory (s : Paged Memory) (r : ByteRange) :
    (s.request r).2 = s ∨ ¬ s.detached = true ∧ (s.request r).2 = (pages r).foldl touch s := by
  by_cases hin : r.Within (ByteSource.length s.inner)
  · by_cases hdetached : s.detached = true
    · rw [request_of_detached hin hdetached]
      exact .inl rfl
    · refine .inr ⟨hdetached, ?_⟩
      rw [request_of_attached hin hdetached]
      simp only
      split
      · rw [foldl_touch_eq]
        rfl
      · rfl
  · rw [request, if_pos hin]
    exact .inl rfl

theorem write_memory (h : ByteSource.write s offset new = .ok t) :
    t = { s with inner := { s.inner with bytes := s.inner.bytes.overwrite offset new } } := by
  obtain ⟨inner, hinner, rfl⟩ : ∃ inner, s.inner.write offset new = .ok inner ∧
    { s with inner } = t := by
    change (do return { s with inner := ← s.inner.write offset new } :
      Except Error (Paged Memory)) = _ at h
    cases hw : s.inner.write offset new with
    | error => rw [hw] at h; cases h
    | ok inner =>
      rw [hw] at h
      exact ⟨inner, rfl, Except.ok.inj h⟩
  obtain ⟨-, -, rfl⟩ := Memory.write_ok.mp hinner
  rfl

theorem Orderly.apply (h : s.Orderly) (op : Op) : (op.apply s).Orderly := by
  cases op with
  | request r =>
    change (s.request r).2.Orderly
    rcases s.request_memory r with hsame | ⟨hattached, htouched⟩
    · rwa [hsame]
    · rw [htouched]
      exact h.foldl_touch hattached (pages r)
  | read => exact h
  | write offset new =>
    simp only [Op.apply]
    split
    · rename_i hwrite
      rw [write_memory hwrite]
      exact ⟨h.apart, h.detached⟩
    · exact h
  | fetchPending => exact h.fetchPending
  | prefetch r => exact h.prefetch r
  | detach => exact s.orderly_detach
  | takeChange => exact ⟨h.apart, h.detached⟩

theorem keeps_apply (s : Paged Memory) (op : Op) : s.Keeps (op.apply s) := by
  cases op with
  | request r =>
    change s.Keeps (s.request r).2
    rcases s.request_memory r with hsame | ⟨-, htouched⟩
    · rw [hsame]
      exact .refl s
    · rw [htouched]
      refine List.foldlRecOn (pages r) touch (.refl s) fun u hu page _ => hu.trans ⟨?_, ?_⟩
      · exact fun q => mem_fetched_touched (u.touched_touch page)
      · rw [touch_eq]
  | read => exact .refl s
  | write offset new =>
    simp only [Op.apply]
    split
    · rename_i hwrite
      rw [write_memory hwrite]
      exact ⟨fun _ => id, Bytes.size_overwrite _ _ _⟩
    · exact .refl s
  | fetchPending =>
    simp only [Op.apply, Paged.fetchPending]
    split
    · exact .refl s
    · exact ⟨fun page hpage => List.mem_append_right _ hpage, rfl⟩
  | prefetch r =>
    exact List.foldlRecOn (pages r) deliver (.refl s) fun u hu page _ =>
      hu.trans ⟨fun q hq => mem_fetched_deliver.mpr (.inr hq), rfl⟩
  | detach | takeChange => exact ⟨fun _ => id, rfl⟩

theorem Orderly.run (h : s.Orderly) (ops : List Op) : (s.run ops).Orderly :=
  List.foldlRecOn ops Op.apply h fun _ hu op _ => hu.apply op

theorem keeps_run (s : Paged Memory) (ops : List Op) : s.Keeps (s.run ops) :=
  List.foldlRecOn ops Op.apply (.refl s) fun u hu op _ => hu.trans (u.keeps_apply op)

-- ---------------------------------------------------------------------------
-- What is there can be read
-- ---------------------------------------------------------------------------

/-- A range of the data whose pages have all arrived. -/
structure Has (s : Paged Memory) (r : ByteRange) : Prop where
  within : r.Within s.inner.bytes.size
  fetched : s.isFetched r = true

theorem Has.keeps (h : s.Has r) (ht : s.Keeps t) : t.Has r := by
  refine ⟨ht.size.symm ▸ h.within, ?_⟩
  rw [isFetched_iff]
  exact fun page hpage => ht.fetched page ((isFetched_iff s r).mp h.fetched page hpage)

theorem Has.request_eq (h : s.Has r) : s.request r = (true, s) := by
  by_cases hdetached : s.detached = true
  · rw [request_of_detached h.within hdetached, h.fetched]
  · rw [request_of_fetched h.within hdetached h.fetched]
    exact congrArg (·, s) (decide_eq_true h.within)

theorem has_of_request (h : (s.request r).1 = true) : (s.request r).2.Has r := by
  by_cases hin : r.Within (ByteSource.length s.inner)
  · by_cases hdetached : s.detached = true
    · rw [request_of_detached hin hdetached] at h ⊢
      exact ⟨hin, h⟩
    · rw [request_of_attached hin hdetached] at h ⊢
      simp only at h ⊢
      split at h
      · rename_i hfetched
        rw [if_pos hfetched]
        exact ⟨hin, hfetched⟩
      · cases h
  · rw [request, if_pos hin] at h
    cases h

theorem Has.stop_le (h : s.Has r) (hsize : s.inner.bytes.size < Offset.top) :
    r.offset + r.length ≤ s.inner.bytes.size := by
  obtain ⟨⟨hstop, -⟩, -⟩ := h
  unfold ByteRange.stop Offset.add at hstop
  omega

theorem Has.read_eq (h : s.Has r) :
    ByteSource.read s r = .ok (s.inner.bytes.extract r.offset (r.offset + r.length)) := by
  change s.read r = _
  rw [read, if_pos h.fetched]
  exact Memory.read_of_within h.within

/-- Whatever is done to a remote memory, no page is both pending and fetched, nothing is pending
once the remote end is gone, and pages that have arrived stay. A range that is said to be there is
so from then on, and reading it gives the bytes that the memory has in it at that time; so no fetch
finds that bytes are missing which it was told are there. -/
theorem run_available {m : Memory} (hsize : m.bytes.size < Offset.top) (latency : Option Nat)
    (ops : List Op) :
    let s := run { inner := m, latency } ops
    (∀ page, ¬ (page ∈ s.fetched ∧ page ∈ s.pending.map (·.1))) ∧
    (s.detached = true → s.pending = []) ∧
    (∀ later, ∀ page ∈ s.fetched, page ∈ (s.run later).fetched) ∧
    (∀ r, (Probe.request s r).1 = true → ∀ later,
      let t := (Probe.request s r).2.run later
      (Probe.request t r).1 = true ∧
        ∃ data, ByteSource.read t r = .ok data ∧ data.size = r.length ∧
          ∀ i < r.length, data[i]? = t.inner.bytes[r.offset + i]?) ∧
    ∀ (p : Poller) r now, (p.check s r now).1 = true →
      ∃ data, p.fetch s r now = (some data, (p.check s r now).2) := by
  intro s
  have horderly : s.Orderly := (orderly_new m latency).run ops
  have hkeeps : Keeps { inner := m, latency } s := keeps_run _ ops
  refine ⟨fun page hboth => horderly.apart page hboth.1 hboth.2, horderly.detached,
    fun later => (s.keeps_run later).fetched, ?_, ?_⟩
  · intro r hasked later t
    have hreached : s.Keeps t := (s.keeps_apply (.request r)).trans (keeps_run _ later)
    have hhas : t.Has r := (has_of_request hasked).keeps (keeps_run _ later)
    have hstop := hhas.stop_le (by rw [hreached.size, hkeeps.size]; exact hsize)
    refine ⟨congrArg Prod.fst hhas.request_eq, _, hhas.read_eq, ?_, ?_⟩
    · rw [Array.size_extract]
      omega
    · intro i hi
      rw [Array.getElem?_extract, if_pos (by omega)]
  · intro p r now
    exact Poller.fetch_of_check fun hasked => ⟨_, (has_of_request hasked).read_eq⟩

/-- The last page of a memory arrives at the second request. An edit, the loss of the remote end and
a request for a page that is missing do not take it back. -/
theorem run_available_lastPage :
    let m : Memory := { bytes := Array.replicate 300 7, editable := true }
    let r : ByteRange := ⟨290, 10⟩
    let s := run { inner := m, latency := some 1 } [.request r]
    let t := (Probe.request s r).2.run [.write 291 #[5], .request ⟨0, 1⟩, .detach, .request ⟨0, 1⟩]
    (Probe.request s r).1 = true ∧ (Probe.request t r).1 = true ∧
    (Probe.request t ⟨0, 1⟩).1 = false ∧
      ∃ data : Bytes, ByteSource.read t r = .ok data ∧ data.size = 10 := by
  intro m r s t
  have hasked : (Probe.request s r).1 = true := by decide +kernel
  obtain ⟨hagain, data, hread, hcount, -⟩ :=
    (run_available (m := m) (by decide +kernel) (some 1) [.request r]).2.2.2.1 r hasked
    [.write 291 #[5], .request ⟨0, 1⟩, .detach, .request ⟨0, 1⟩]
  exact ⟨hasked, hagain, by decide +kernel, data, hread, hcount⟩

end Paged

end HexEditor
