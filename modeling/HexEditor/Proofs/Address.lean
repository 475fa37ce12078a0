import HexEditor.Layout
import HexEditor.Proofs.Hex
import HexEditor.Text
import Mathlib.Algebra.Group.Int.Defs
import Mathlib.Algebra.Group.Nat.Defs

/-!
# The digits of written addresses

An address is written with digits only, and the digits that fill it up in front are zeros.
`digitsValue?_padded`: the digits have the value of the address, whatever the width.
-/

namespace HexEditor

def Hex.AllDigits (cs : List Char) : Prop :=
  ∀ c ∈ cs, ∃ d < 16, c = Hex.digit d

theorem Hex.value?_digit (hd : d < 16) : value? (digit d) = some d :=
  value?_of_toUpper hd (toUpper_digit hd)

-- ---------------------------------------------------------------------------
-- Digits
-- ---------------------------------------------------------------------------

theorem Hex.allDigits_digits (n : Nat) : AllDigits (digits n) := by
  fun_induction digits n with
  | case1 n hn =>
    intro c hc
    exact ⟨n, hn, List.mem_singleton.mp hc⟩
  | case2 n hn ih =>
    intro c hc
    rcases List.mem_append.mp hc with hc | hc
    · exact ih c hc
    · exact ⟨n % 16, Nat.mod_lt n (by decide), List.mem_singleton.mp hc⟩

theorem Hex.digits_ne_nil (n : Nat) : digits n ≠ [] := by
  unfold digits
  split <;> simp

theorem Hex.allDigits_padded (width n : Nat) : AllDigits (padded width n).toList := by
  intro c hc
  rw [padded, String.toList_ofList, List.mem_append] at hc
  rcases hc with hc | hc
  · exact ⟨0, by decide, List.eq_of_mem_replicate hc⟩
  · exact allDigits_digits n c hc

theorem Hex.padded_ne_nil (width n : Nat) : (padded width n).toList ≠ [] := by
  rw [padded, String.toList_ofList]
  simp [digits_ne_nil]

namespace Address

theorem digitsValue?_concat (cs : List Char) (hd : d < 16) (h : digitsValue? 16 cs = some n) :
    digitsValue? 16 (cs ++ [Hex.digit d]) = some (16 * n + d) := by
  unfold digitsValue? at h ⊢
  rw [List.foldlM_append, h]
  simp [Hex.value?_digit hd, hd]

theorem digitsValue?_digits (n : Nat) : digitsValue? 16 (Hex.digits n) = some n := by
  fun_induction Hex.digits n with
  | case1 n hn => simp [digitsValue?, Hex.value?_digit hn, hn]
  | case2 n hn ih =>
    rw [digitsValue?_concat _ (Nat.mod_lt n (by decide)) ih]
    exact congrArg some (Nat.div_add_mod n 16)

theorem digitsValue?_zeros (count : Nat) (cs : List Char) :
    digitsValue? 16 (List.replicate count '0' ++ cs) = digitsValue? 16 cs := by
  induction count with
  | zero => rfl
  | succ count ih => exact ih

theorem digitsValue?_padded (width n : Nat) :
    digitsValue? 16 (Hex.padded width n).toList = some n := by
  rw [Hex.padded, String.toList_ofList, digitsValue?_zeros, digitsValue?_digits]

-- ---------------------------------------------------------------------------
-- What is no digit
-- ---------------------------------------------------------------------------

theorem not_blank_digit (hd : d < 16) : Text.isBlank (Hex.digit d) = false := by
  have hdigits : ∀ d : Fin 16, Text.isBlank (Hex.digit d) = false := by decide
  exact hdigits ⟨d, hd⟩

theorem digit_ne_mark (hd : d < 16) :
    Hex.digit d ≠ '#' ∧ Hex.digit d ≠ 'x' ∧ Hex.digit d ≠ 'X' := by
  have hdigits : ∀ d : Fin 16, Hex.digit d ≠ '#' ∧ Hex.digit d ≠ 'x' ∧ Hex.digit d ≠ 'X' := by
    decide
  exact hdigits ⟨d, hd⟩

end Address

end HexEditor
