import HexEditor.Text
import Mathlib.Algebra.Group.Int.Defs
import Mathlib.Algebra.Group.Nat.Defs

/-!
# Digits that are read back

A text spells bytes if it has their digits, in either case. Each digit has the value that it was
written for.
-/

namespace HexEditor.Hex

/-- The digits of the bytes, in either case. -/
def Spells (cs : List Char) (bytes : List UInt8) : Prop :=
  cs.map Char.toUpper = bytes.flatMap fun b => (byte b).toList

instance (cs : List Char) (bytes : List UInt8) : Decidable (Spells cs bytes) :=
  inferInstanceAs (Decidable (_ = _))

theorem toNat_toUpper (c : Char) :
    c.toUpper.toNat = if 97 ≤ c.toNat ∧ c.toNat ≤ 122 then c.toNat - 32 else c.toNat := by
  unfold Char.toUpper
  split
  · rename_i hlower
    change 97 ≤ c.toNat ∧ c.toNat ≤ 122 at hlower
    rw [if_pos hlower]
    change (c.val + ('A'.val - 'a'.val)).toNat = c.val.toNat - 32
    change 97 ≤ c.val.toNat ∧ c.val.toNat ≤ 122 at hlower
    rw [UInt32.toNat_add, show ('A'.val - 'a'.val).toNat = 2 ^ 32 - 32 from rfl]
    omega
  · rename_i hother
    exact (if_neg hother).symm

theorem toNat_digit (hd : d < 16) : (digit d).toNat = if d < 10 then 48 + d else 55 + d := by
  have hdigits : ∀ d : Fin 16, (digit d).toNat = if d.val < 10 then 48 + d.val else 55 + d.val := by
    decide
  exact hdigits ⟨d, hd⟩

theorem toUpper_digit (hd : d < 16) : (digit d).toUpper = digit d := by
  have hdigits : ∀ d : Fin 16, (digit d).toUpper = digit d := by decide
  exact hdigits ⟨d, hd⟩

theorem value?_eq (c : Char) :
    value? c =
      if 48 ≤ c.toNat ∧ c.toNat ≤ 57 then some (c.toNat - 48)
      else if 97 ≤ c.toNat ∧ c.toNat ≤ 102 then some (c.toNat - 87)
      else if 65 ≤ c.toNat ∧ c.toNat ≤ 70 then some (c.toNat - 55)
      else none :=
  rfl

theorem value?_of_toUpper (hd : d < 16) (h : c.toUpper = digit d) : value? c = some d := by
  have hnat := congrArg Char.toNat h
  rw [toNat_toUpper, toNat_digit hd] at hnat
  rw [value?_eq]
  -- A letter that is not a digit stays one.
  repeat' split at hnat
  all_goals repeat' split
  all_goals simp only [Option.some.injEq, reduceCtorEq]
  all_goals omega

theorem lt_of_value? (h : value? c = some d) : d < 16 := by
  rw [value?_eq] at h
  repeat' split at h
  all_goals cases h
  all_goals omega

theorem digit_of_value? (h : value? c = some d) : digit d = c.toUpper := by
  have hd := lt_of_value? h
  apply Char.ext
  apply UInt32.toNat_inj.mp
  change (digit d).toNat = c.toUpper.toNat
  rw [toNat_toUpper, toNat_digit hd]
  rw [value?_eq] at h
  repeat' split at h
  all_goals cases h
  all_goals repeat' split
  all_goals omega

theorem Spells.cons_inv (h : Spells cs (b :: bytes)) :
    ∃ high low rest, cs = high :: low :: rest ∧ value? high = some (b.toNat / 16) ∧
      value? low = some (b.toNat % 16) ∧ Spells rest bytes := by
  have hb := b.toNat_lt
  unfold Spells at h
  rw [List.flatMap_cons, byte, String.toList_ofList, List.cons_append, List.cons_append,
    List.nil_append] at h
  obtain ⟨high, cs', rfl, hhigh, h⟩ := List.map_eq_cons_iff.mp h
  obtain ⟨low, rest, rfl, hlow, h⟩ := List.map_eq_cons_iff.mp h
  exact ⟨high, low, rest, rfl, value?_of_toUpper (by omega) hhigh,
    value?_of_toUpper (by omega) hlow, h⟩

theorem spells_bytes (bytes : List UInt8) :
    Spells (bytes.flatMap fun b => (byte b).toList) bytes := by
  unfold Spells
  rw [List.map_flatMap]
  refine congrArg (bytes.flatMap ·) (funext fun b => ?_)
  have hb := b.toNat_lt
  rw [byte, String.toList_ofList, List.map_cons, List.map_cons, List.map_nil,
    toUpper_digit (by omega),
    toUpper_digit (by omega)]

end HexEditor.Hex
