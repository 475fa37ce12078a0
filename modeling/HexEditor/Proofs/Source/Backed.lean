import HexEditor.Proofs.Source.Unfetched
import HexEditor.Proofs.View.Typing

/-!
# The memory behind a source

Bytes that can be edited are in a memory, which is at hand or is fetched page by page. What is read
comes from that memory, and what is written goes to it, also to pages that have not been fetched.
Asking a source for bytes leaves them as they are.
-/

namespace HexEditor

theorem Memory.read_ok {m : Memory} (h : m.read r = .ok data) :
    data = m.bytes.extract r.offset (r.offset + r.length) := by
  by_cases hin : r.Within m.bytes.size
  · rw [Memory.read_of_within hin] at h
    exact (Except.ok.inj h).symm
  · have hcheck : r.check m.bytes.size = .error (.outOfRange r.stop m.bytes.size) := if_neg hin
    rw [Memory.read, hcheck] at h
    cases h

namespace Paged

theorem pages_byte (h : o < Offset.top) : pages ⟨o, 1⟩ = [o / pageSize] := by
  have hstop : ByteRange.stop ⟨o, 1⟩ = o + 1 := Nat.min_eq_left h
  have hcount : divUp (o + 1) pageSize - o / pageSize = 1 := by
    unfold divUp pageSize
    omega
  simp [pages, pageSpan, ByteRange.IsEmpty, hstop, hcount]

theorem isFetched_byte (p : Paged σ) (h : o < Offset.top) :
    p.isFetched ⟨o, 1⟩ = true ↔ o / pageSize ∈ p.fetched := by
  rw [isFetched_iff, pages_byte h, List.forall_mem_singleton]

end Paged

namespace AnySource

section
variable {τ : Type}

/-- The memory at hand, or the one that is fetched page by page. -/
def memory? : AnySource (Paged Memory ⊕ τ) → Option Memory
  | .inl m => some m
  | .inr (.inr (.inl p)) => some p.inner
  | _ => none

def withBytes (bytes : Bytes) : AnySource (Paged Memory ⊕ τ) → AnySource (Paged Memory ⊕ τ)
  | .inl m => .inl { m with bytes }
  | .inr (.inr (.inl p)) => .inr (.inr (.inl (p.withBytes bytes)))
  | s => s

/-- The page of an offset has arrived. A memory at hand has no pages to wait for. -/
def HasPage (offset : Nat) : AnySource (Paged Memory ⊕ τ) → Prop
  | .inr (.inr (.inl p)) => offset / Paged.pageSize ∈ p.fetched
  | _ => True

def content? (s : AnySource (Paged Memory ⊕ τ)) : Option Bytes :=
  s.memory?.map (·.bytes)

variable {s : AnySource (Paged Memory ⊕ τ)} {m : Memory}

theorem content?_of_memory? (hm : s.memory? = some m) : s.content? = some m.bytes := by
  rw [content?, hm, Option.map_some]

theorem content?_withBytes (hm : s.memory? = some m) (bytes : Bytes) :
    (s.withBytes bytes).content? = some bytes := by
  rcases s with m | f | p | t
  · rfl
  · cases hm
  · rfl
  · cases hm

end

variable [ByteSource τ] {s : AnySource (Paged Memory ⊕ τ)} {m : Memory}

theorem content?_request (s : AnySource (Paged Memory ⊕ τ)) (r : ByteRange) :
    (Probe.request s r).2.content? = s.content? := by
  rcases s with m | f | p | t
  · rfl
  · rfl
  · change some (p.request r).2.inner.bytes = some p.inner.bytes
    rcases p.request_memory r with hsame | ⟨-, htouched⟩
    · rw [hsame]
    · rw [htouched, Paged.foldl_touch_eq]
  · rfl

theorem content?_takeChange (s : AnySource (Paged Memory ⊕ τ)) :
    (ByteSource.takeChange s).2.content? = s.content? := by
  rcases s with m | f | p | t <;> rfl

theorem length_of_content? (h : s.content? = some bytes) : ByteSource.length s = bytes.size := by
  rcases s with m | f | p | t <;> cases h <;> rfl

theorem read_of_content? (h : s.content? = some bytes) (hread : ByteSource.read s r = .ok data) :
    data = bytes.extract r.offset (r.offset + r.length) := by
  rcases s with m | f | p | t
  · cases h
    exact Memory.read_ok hread
  · cases h
  · cases h
    change p.read r = .ok data at hread
    unfold Paged.read at hread
    split at hread
    · exact Memory.read_ok hread
    · cases hread
  · cases h

section
variable (hm : s.memory? = some m)
include hm

theorem editable_of_memory? : ByteSource.editable s = m.editable := by
  rcases s with m | f | p | t <;> cases hm <;> rfl

theorem read_byte_iff (hold : m.bytes[o]? = some old) (hsize : m.bytes.size < 2 ^ 63) :
    ByteSource.read s ⟨o, 1⟩ = .ok data ↔ s.HasPage o ∧ data = #[old] := by
  have ho := (Array.getElem?_eq_some_iff.mp hold).choose
  have hbyte : m.read ⟨o, 1⟩ = .ok #[old] := View.read_byte (τ := τ) hold
  rcases s with m | f | p | t
  · cases hm
    change m.read ⟨o, 1⟩ = _ ↔ True ∧ _
    rw [hbyte, true_and, Except.ok.injEq, eq_comm]
  · cases hm
  · cases hm
    have htop : o < Offset.top := by
      unfold Offset.top
      omega
    change p.read ⟨o, 1⟩ = _ ↔ o / Paged.pageSize ∈ p.fetched ∧ _
    rw [← p.isFetched_byte htop, Paged.read]
    split
    · rename_i hfetched
      change p.inner.read ⟨o, 1⟩ = _ ↔ _
      rw [hbyte, Except.ok.injEq, eq_comm]
      exact (and_iff_right hfetched).symm
    · rename_i hfetched
      exact ⟨nofun, fun h => absurd h.1 hfetched⟩
  · cases hm

theorem write_byte_of_memory? (heditable : m.editable = true) (ho : o < m.bytes.size) (b : UInt8) :
    ByteSource.write s o #[b] = .ok (s.withBytes (m.bytes.overwrite o #[b])) := by
  have hwrite : m.write o #[b] = .ok { m with bytes := m.bytes.overwrite o #[b] } :=
    Memory.write_ok.mpr ⟨heditable, ByteRange.within_of_le ho, rfl⟩
  rcases s with m | f | p | t
  · cases hm
    exact View.write_byte heditable ho b
  · cases hm
  · cases hm
    change Sum.inr <$>
      (Sum.inr <$> (Sum.inl <$> (do return { p with inner := ← p.inner.write o #[b] }))) = _
    rw [hwrite]
    rfl
  · cases hm

end

end AnySource

end HexEditor
