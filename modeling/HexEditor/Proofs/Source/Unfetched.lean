import HexEditor.Proofs.Source.Paged

/-!
# Bytes that were not fetched do not show

Whoever uses a remote memory learns nothing about the pages that have not arrived. `play_blind`
compares two remote memories that differ in their bytes: as long as they agree on the pages that are
fetched in the end, no answer on the way tells one from the other, and no refusal either. Pages
arrive by what is asked for, never by what they hold.
-/

namespace HexEditor.Paged

inductive Action
  | does (op : Op)
  | keepsTrying
  | pendingPages

inductive Answer
  | done
  | flag (b : Bool)
  | count (n : Nat)
  | bytes (result : Except Error Bytes)
  | written (result : Except Error Unit)

def Action.apply [ByteSource σ] (s : Paged σ) : Action → Paged σ
  | does op => op.apply s
  | keepsTrying => s
  | pendingPages => s

def Action.answer [ByteSource σ] (s : Paged σ) : Action → Answer
  | does (.request r) => .flag (Probe.request s r).1
  | does (.read r) => .bytes (ByteSource.read s r)
  | does (.write offset new) => .written ((fun _ => ()) <$> ByteSource.write s offset new)
  | does .takeChange => .flag (ByteSource.takeChange s).1
  | does .fetchPending => .done
  | does (.prefetch _) => .done
  | does .detach => .done
  | keepsTrying => .flag (Probe.keepsTrying s)
  | pendingPages => .count s.pending.length

def play [ByteSource σ] (s : Paged σ) : List Action → List Answer × Paged σ
  | [] => ([], s)
  | act :: acts =>
    let (answers, last) := (act.apply s).play acts
    (act.answer s :: answers, last)

-- ---------------------------------------------------------------------------
-- The same source over other bytes
-- ---------------------------------------------------------------------------

def withBytes (s : Paged Memory) (bytes : Bytes) : Paged Memory :=
  { s with inner := { s.inner with bytes } }

/-- As many bytes, and the same ones on known pages. -/
structure Agrees (known : List Nat) (a b : Bytes) : Prop where
  size : b.size = a.size
  page : ∀ i, i / pageSize ∈ known → b[i]? = a[i]?

theorem Agrees.overwrite (h : Agrees known a b) (offset : Nat) (new : Bytes) :
    Agrees known (a.overwrite offset new) (b.overwrite offset new) := by
  constructor
  · simp [Bytes.size_overwrite, h.size]
  · intro i hi
    simp [Bytes.overwrite, h.page i hi]

section
variable (s : Paged Memory) (b : Bytes)

theorem isFetched_withBytes (r : ByteRange) : (s.withBytes b).isFetched r = s.isFetched r :=
  rfl

theorem touch_withBytes (page : Nat) : (s.withBytes b).touch page = (s.touch page).withBytes b := by
  by_cases hfetched : page ∈ s.fetched
  · simp [touch, withBytes, hfetched]
  cases hpending : s.pending.lookup page with
  | none => simp [touch, withBytes, hfetched, hpending]
  | some left =>
    cases hlatency : s.latency with
    | none => simp [touch, withBytes, hfetched, hpending, hlatency]
    | some _ =>
      by_cases hleft : left ≤ 1 <;> simp [touch, withBytes, hfetched, hpending, hlatency, hleft]

theorem foldl_touch_withBytes (ps : List Nat) :
    ps.foldl touch (s.withBytes b) = (ps.foldl touch s).withBytes b := by
  induction ps generalizing s with
  | nil => rfl
  | cons p ps ih => simp [touch_withBytes, ih]

theorem prefetch_withBytes (r : ByteRange) :
    (s.withBytes b).prefetch r = (s.prefetch r).withBytes b := by
  unfold prefetch
  induction pages r generalizing s with
  | nil => rfl
  | cons p ps ih => exact ih (s.deliver p)

theorem fetchPending_withBytes : (s.withBytes b).fetchPending = s.fetchPending.withBytes b := by
  by_cases hdetached : s.detached = true <;> simp [fetchPending, withBytes, hdetached]

end

variable {s : Paged Memory} {b : Bytes}

section
variable (hsize : b.size = s.inner.bytes.size)
include hsize

theorem request_withBytes (r : ByteRange) :
    (s.withBytes b).request r = ((s.request r).1, (s.request r).2.withBytes b) := by
  have hlength : ByteSource.length (s.withBytes b).inner = ByteSource.length s.inner := hsize
  by_cases hin : r.Within (ByteSource.length s.inner)
  · have hin' : r.Within (ByteSource.length (s.withBytes b).inner) := hlength ▸ hin
    by_cases hdetached : s.detached = true
    · rw [request_of_detached hin hdetached, request_of_detached hin' hdetached]
      rfl
    · have hasked : Probe.request (s.withBytes b).inner r =
        ((Probe.request s.inner r).1, (s.withBytes b).inner) := by
        simp [Probe.request, withBytes, hsize]
      rw [request_of_attached hin hdetached, request_of_attached hin' hdetached, hasked,
        foldl_touch_withBytes]
      cases hfetched : ((pages r).foldl touch s).isFetched r with
      | false => simp [isFetched_withBytes, hfetched]
      | true => simp [isFetched_withBytes, hfetched]; rfl
  · rw [request, if_pos (hlength ▸ hin), request, if_pos hin]

theorem write_withBytes (offset : Nat) (new : Bytes) :
    ByteSource.write (s.withBytes b) offset new =
      (fun t => t.withBytes (b.overwrite offset new)) <$> ByteSource.write s offset new := by
  change (do return { s.withBytes b with inner := ← Memory.write _ offset new } :
      Except Error (Paged Memory)) =
    _ <$> (do return { s with inner := ← Memory.write _ offset new } : Except Error (Paged Memory))
  unfold Memory.write
  cases heditable : s.inner.editable with
  | false => simp [withBytes, heditable]; rfl
  | true =>
    by_cases hin : ByteRange.Within ⟨offset, new.size⟩ s.inner.bytes.size
    · simp [ByteRange.check, withBytes, heditable, hsize, hin]
    · simp [ByteRange.check, withBytes, heditable, hsize, hin]

end

theorem read_withBytes (h : Agrees known s.inner.bytes b)
    (hknown : ∀ page ∈ s.fetched, page ∈ known) (htop : s.inner.bytes.size < 2 ^ 64)
    (r : ByteRange) : (s.withBytes b).read r = s.read r := by
  cases hfetched : s.isFetched r with
  | false => simp [read, isFetched_withBytes, hfetched]
  | true =>
    simp only [read, isFetched_withBytes, hfetched, if_true]
    change Memory.read _ r = Memory.read _ r
    by_cases hin : r.Within s.inner.bytes.size
    · have hin' : r.Within (s.withBytes b).inner.bytes.size := h.size ▸ hin
      rw [Memory.read_of_within hin, Memory.read_of_within hin']
      congr 1
      apply Array.ext_getElem?
      intro i
      simp only [Array.getElem?_extract]
      change (if i < min (r.offset + r.length) b.size - r.offset then b[r.offset + i]?
        else none) = _
      rw [h.size]
      split
      · apply h.page
        apply hknown
        apply (isFetched_iff s r).mp hfetched
        apply div_mem_pages
        · omega
        · simp only [ByteRange.stop, Offset.add, Offset.top]
          omega
      · rfl
    · simp only [Memory.read, ByteRange.check, withBytes, h.size, hin, if_false]
      rfl

-- ---------------------------------------------------------------------------
-- Runs
-- ---------------------------------------------------------------------------

theorem keeps_action (s : Paged Memory) (act : Action) : s.Keeps (act.apply s) := by
  cases act with
  | does op => exact s.keeps_apply op
  | keepsTrying => exact .refl s
  | pendingPages => exact .refl s

theorem keeps_play (s : Paged Memory) (acts : List Action) : s.Keeps (s.play acts).2 := by
  induction acts generalizing s with
  | nil => exact .refl s
  | cons act acts ih => exact (s.keeps_action act).trans (ih _)

theorem inner_request (s : Paged Memory) (r : ByteRange) : (s.request r).2.inner = s.inner := by
  rcases s.request_memory r with hsame | ⟨-, htouched⟩
  · rw [hsame]
  · rw [htouched, foldl_touch_eq]

section
variable (h : Agrees known s.inner.bytes b)
include h

theorem Agrees.apply (act : Action) :
    ∃ b', Agrees known (act.apply s).inner.bytes b' ∧
      act.apply (s.withBytes b) = (act.apply s).withBytes b' := by
  cases act with
  | does op =>
    cases op with
    | request r =>
      refine ⟨b, ?_, congrArg Prod.snd (request_withBytes h.size r)⟩
      change Agrees known (s.request r).2.inner.bytes b
      rwa [inner_request]
    | read r => exact ⟨b, h, rfl⟩
    | write offset new =>
      simp only [Action.apply, Op.apply, write_withBytes h.size]
      cases hwrite : ByteSource.write s offset new with
      | error e => exact ⟨b, h, rfl⟩
      | ok t =>
        refine ⟨b.overwrite offset new, ?_, rfl⟩
        simp only [write_memory hwrite]
        exact h.overwrite offset new
    | fetchPending =>
      refine ⟨b, ?_, s.fetchPending_withBytes b⟩
      simp only [Action.apply, Op.apply, fetchPending]
      split <;> exact h
    | prefetch r =>
      refine ⟨b, ?_, s.prefetch_withBytes b r⟩
      have hinner : (s.prefetch r).inner = s.inner :=
        List.foldlRecOn (motive := fun t : Paged Memory => t.inner = s.inner)
          (pages r) deliver rfl fun _ ht _ _ => ht
      change Agrees known (s.prefetch r).inner.bytes b
      rwa [hinner]
    | detach => exact ⟨b, h, rfl⟩
    | takeChange => exact ⟨b, h, rfl⟩
  | keepsTrying => exact ⟨b, h, rfl⟩
  | pendingPages => exact ⟨b, h, rfl⟩

theorem Agrees.answer (hknown : ∀ page ∈ s.fetched, page ∈ known)
    (htop : s.inner.bytes.size < 2 ^ 64) (act : Action) :
    act.answer (s.withBytes b) = act.answer s := by
  cases act with
  | does op =>
    cases op with
    | request r => exact congrArg (fun x => Answer.flag x.1) (request_withBytes h.size r)
    | read r => exact congrArg Answer.bytes (read_withBytes h hknown htop r)
    | write offset new =>
      simp only [Action.answer, write_withBytes h.size]
      cases ByteSource.write s offset new <;> rfl
    | fetchPending => rfl
    | prefetch r => rfl
    | detach => rfl
    | takeChange => rfl
  | keepsTrying => rfl
  | pendingPages => rfl

theorem Agrees.play {acts : List Action} (hknown : ∀ page ∈ (s.play acts).2.fetched, page ∈ known)
    (htop : s.inner.bytes.size < 2 ^ 64) :
    ((s.withBytes b).play acts).1 = (s.play acts).1 ∧
      ((s.withBytes b).play acts).2.fetched = (s.play acts).2.fetched := by
  induction acts generalizing s b with
  | nil => exact ⟨rfl, rfl⟩
  | cons act acts ih =>
    have hnow : ∀ page ∈ s.fetched, page ∈ known := fun page hpage =>
      hknown page ((s.keeps_play (act :: acts)).fetched page hpage)
    obtain ⟨b', hagrees, hsource⟩ := h.apply act
    obtain ⟨hanswers, hfetched⟩ := ih hagrees hknown (by rwa [(s.keeps_action act).size])
    simp only [Paged.play, h.answer hnow htop act, hsource, hanswers, hfetched, and_self]

end

/-- Two remote memories that differ in their bytes give the same answers, and fetch the same pages,
whatever is done to them, if they agree on the pages that have arrived in the end. -/
theorem play_blind (m : Memory) (bytes : Bytes) (hsize : bytes.size = m.bytes.size)
    (htop : m.bytes.size < 2 ^ 64) (latency : Option Nat) (acts : List Action)
    (hagree : ∀ page ∈ (play { inner := m, latency } acts).2.fetched, ∀ i, i / pageSize = page →
      bytes[i]? = m.bytes[i]?) :
    (play { inner := { m with bytes }, latency } acts).1 = (play { inner := m, latency } acts).1 ∧
      (play { inner := { m with bytes }, latency } acts).2.fetched =
      (play { inner := m, latency } acts).2.fetched := by
  have hagrees : Agrees (play { inner := m, latency } acts).2.fetched m.bytes bytes :=
    ⟨hsize, fun i hi => hagree _ hi i rfl⟩
  exact hagrees.play (s := { inner := m, latency }) (fun _ => id) htop

/-- The first page arrives. The second one is overwritten in part and asked for, but never
fetched. -/
theorem play_blind_secondPage :
    let m : Memory := { bytes := Array.replicate 300 7, editable := true }
    let bytes : Bytes := Array.replicate 256 7 ++ Array.replicate 44 8
    let acts : List Action :=
      [.does (.request ⟨0, 4⟩), .does .fetchPending, .does (.read ⟨250, 6⟩),
        .does (.write 298 #[1]),
        .does (.request ⟨250, 7⟩), .pendingPages, .does (.read ⟨250, 7⟩), .does .detach,
          .keepsTrying]
    bytes ≠ m.bytes ∧ (play { inner := m } acts).2.fetched = [0] ∧
      (play { inner := { m with bytes } } acts).1 = (play { inner := m } acts).1 := by
  intro m bytes acts
  have hfetched : (play { inner := m } acts).2.fetched = [0] := by decide +kernel
  refine ⟨by decide +kernel, hfetched,
    (play_blind m bytes (by simp [m, bytes]) (by simp [m]) none acts ?_).1⟩
  rw [hfetched]
  intro page hpage i hi
  obtain rfl : page = 0 := by simpa using hpage
  have hfirst : i < 256 := by
    simp only [pageSize] at hi
    omega
  have hlast : i < 300 := by omega
  simp [m, bytes, hfirst, hlast]

end HexEditor.Paged
