import HexEditor.Source
import Mathlib.Algebra.Group.Int.Defs
import Mathlib.Algebra.Group.Nat.Defs

/-!
# Reading and writing a memory

Any range of a memory can be read. A write overwrites the bytes of a range and nothing else: the
memory keeps its size, and no change is reported for it.
-/

namespace HexEditor

theorem Memory.read_of_within {m : Memory} {r : ByteRange} (h : r.Within m.bytes.size) :
    m.read r = .ok (m.bytes.extract r.offset (r.offset + r.length)) := by
  have hcheck : r.check m.bytes.size = .ok () := if_pos h
  rw [Memory.read, hcheck]
  rfl

theorem Bytes.size_overwrite (bs : Bytes) (offset : Nat) (new : Bytes) :
    (bs.overwrite offset new).size = bs.size :=
  Array.size_mapIdx

theorem Bytes.getElem?_overwrite (bs : Bytes) (offset : Nat) (b : UInt8) (i : Nat) :
    (bs.overwrite offset #[b])[i]? = if i = offset then bs[i]?.map fun _ => b else bs[i]? := by
  rw [overwrite, Array.getElem?_mapIdx]
  cases bs[i]? with
  | none => simp
  | some old =>
    by_cases heq : i = offset
    · simp [heq]
    · simp only [Option.map_some, heq, if_false, Option.some.injEq]
      split
      · have hout : ¬ i - offset < #[b].size := by
          change ¬ i - offset < 1
          omega
        rw [Array.getD, dif_neg hout]
      · rfl

theorem Bytes.overwrite_overwrite (bs : Bytes) (offset : Nat) (b b' : UInt8) :
    Bytes.overwrite (bs.overwrite offset #[b]) offset #[b'] = bs.overwrite offset #[b'] := by
  apply Array.ext_getElem?
  intro i
  simp only [getElem?_overwrite]
  split
  · rw [Option.map_map]
    rfl
  · rfl

-- ---------------------------------------------------------------------------
-- Bytes one after the other
-- ---------------------------------------------------------------------------

/-- Bytes with a list of new ones, the `j`-th of them at `place (p + j)`. -/
def Bytes.scatter (bs : Bytes) (place : Nat → Nat) (p : Nat) : List UInt8 → Bytes
  | [] => bs
  | b :: rest => Bytes.scatter (bs.overwrite (place p) #[b]) place (p + 1) rest

section
variable {place : Nat → Nat}

theorem Bytes.size_scatter (bs : Bytes) (place : Nat → Nat) (p : Nat) (new : List UInt8) :
    (bs.scatter place p new).size = bs.size := by
  induction new generalizing bs p with
  | nil => rfl
  | cons b rest ih => rw [scatter, ih, size_overwrite]

theorem Bytes.getElem?_scatter_of_ne (bs : Bytes) {new : List UInt8}
    (hi : ∀ j < new.length, place (p + j) ≠ i) :
    (bs.scatter place p new)[i]? = bs[i]? := by
  induction new generalizing bs p with
  | nil => rfl
  | cons b rest ih =>
    have hfirst : ¬ i = place p := Ne.symm (hi 0 (Nat.zero_lt_succ _))
    have hrest (j : Nat) (hj : j < rest.length) : place (p + 1 + j) ≠ i := by
      rw [Nat.add_right_comm]
      exact hi (j + 1) (Nat.succ_lt_succ hj)
    rw [scatter, ih _ hrest, getElem?_overwrite, if_neg hfirst]

theorem Bytes.getElem?_scatter (bs : Bytes) (hplace : ∀ q r, place q = place r → q = r)
    {new : List UInt8} (hj : j < new.length) (hin : place (p + j) < bs.size) :
    (bs.scatter place p new)[place (p + j)]? = new[j]? := by
  induction new generalizing bs p j with
  | nil => cases hj
  | cons b rest ih =>
    rw [scatter]
    cases j with
    | zero =>
      have hlater (j : Nat) (_ : j < rest.length) : place (p + 1 + j) ≠ place p := by
        intro heq
        have := hplace _ _ heq
        omega
      simp only [Nat.add_zero] at hin ⊢
      rw [getElem?_scatter_of_ne _ hlater, getElem?_overwrite, if_pos rfl,
        Array.getElem?_eq_getElem hin]
      rfl
    | succ j =>
      rw [Nat.add_comm j 1, ← Nat.add_assoc] at hin ⊢
      rw [ih _ (Nat.lt_of_succ_lt_succ hj) (by rwa [size_overwrite]), Nat.add_comm 1 j,
        List.getElem?_cons_succ]

end

-- ---------------------------------------------------------------------------
-- Writes
-- ---------------------------------------------------------------------------

theorem Memory.write_ok {m m' : Memory} :
    m.write offset new = .ok m' ↔
      m.editable = true ∧ ByteRange.Within ⟨offset, new.size⟩ m.bytes.size ∧
        m' = { m with bytes := m.bytes.overwrite offset new } := by
  unfold write ByteRange.check
  cases m.editable with
  | false => simp [throw, throwThe, MonadExceptOf.throw, bind, Except.bind]
  | true =>
    by_cases hin : ByteRange.Within ⟨offset, new.size⟩ m.bytes.size
    · simp [hin, bind, Except.bind, pure, Except.pure, eq_comm]
    · simp [hin, bind, Except.bind]

end HexEditor
