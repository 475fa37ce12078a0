import HexEditor.Proofs.Address
import Mathlib.Data.List.Forall2
import Mathlib.Data.List.TakeWhile
import Mathlib.Data.Nat.Digits.Defs

/-!
# The texts that are addresses

Which texts can be typed for an address, said without the reader: blanks around, a mark of the base,
perhaps a plus sign, and digits whose value is a 64-bit word. `parse?_eq_some_iff_denotes`: the
reader accepts these texts and no others, and gives their value. So what is written for an address
is read back also with a mark in front and blanks around.
-/

namespace HexEditor

-- ---------------------------------------------------------------------------
-- Blanks at both ends
-- ---------------------------------------------------------------------------

namespace Text

/-- `t` is what a text has between the blanks at both ends. -/
structure Trims (cs t : List Char) : Prop where
  around : ∃ before after, cs = before ++ t ++ after ∧ ∀ c ∈ before ++ after, isBlank c = true
  first : ∀ c ∈ t.head?, isBlank c = false
  last : ∀ c ∈ t.getLast?, isBlank c = false

theorem dropWhile_of_first {cs : List Char} (h : ∀ c ∈ cs.head?, isBlank c = false) :
    cs.dropWhile isBlank = cs := by
  cases cs with
  | nil => rfl
  | cons c cs => exact List.dropWhile_cons_of_neg (by simp [h c rfl])

theorem first_dropWhile (cs : List Char) :
    ∀ c ∈ (cs.dropWhile isBlank).head?, isBlank c = false := by
  intro c hc
  have hfirst := List.head?_dropWhile_not isBlank cs
  rw [Option.mem_def.mp hc] at hfirst
  simpa using hfirst

theorem trims_trim (cs : List Char) : Trims cs (trim cs) := by
  let blanks := ((cs.dropWhile isBlank).reverse.takeWhile isBlank).reverse
  have hrest : trim cs ++ blanks = cs.dropWhile isBlank := by
    rw [trim, ← List.reverse_append, List.takeWhile_append_dropWhile, List.reverse_reverse]
  refine ⟨⟨cs.takeWhile isBlank, blanks, ?_, ?_⟩, ?_, ?_⟩
  · rw [List.append_assoc, hrest, List.takeWhile_append_dropWhile]
  · intro c hc
    rcases List.mem_append.mp hc with hc | hc
    · exact List.mem_takeWhile_imp hc
    · exact List.mem_takeWhile_imp (List.mem_reverse.mp hc)
  · -- What is left begins where the text without its first blanks does.
    intro c hc
    apply first_dropWhile cs c
    rw [← hrest, List.head?_append, Option.mem_def.mp hc]
    rfl
  · intro c hc
    rw [trim, List.getLast?_reverse] at hc
    exact first_dropWhile _ c hc

theorem Trims.trim_eq (h : Trims cs t) : trim cs = t := by
  obtain ⟨⟨before, after, rfl, hblank⟩, hfirst, hlast⟩ := h
  have hbefore : ∀ c ∈ before, isBlank c = true := fun c hc => hblank c (List.mem_append_left _ hc)
  have hafter : ∀ c ∈ after.reverse, isBlank c = true := fun c hc =>
    hblank c (List.mem_append_right _ (List.mem_reverse.mp hc))
  rw [trim, List.append_assoc, List.dropWhile_append_of_pos hbefore]
  cases t with
  | nil =>
    have hnone : after.dropWhile isBlank = [] :=
      List.dropWhile_eq_nil_iff.mpr fun c hc => hafter c (List.mem_reverse.mpr hc)
    simp [hnone]
  | cons c t =>
    have hkeep : (c :: t ++ after).dropWhile isBlank = c :: t ++ after := dropWhile_of_first hfirst
    rw [hkeep, List.reverse_append, List.dropWhile_append_of_pos hafter, dropWhile_of_first,
      List.reverse_reverse]
    rwa [List.head?_reverse]

theorem trims_of_not_blank {before t after : List Char}
    (hblank : ∀ c ∈ before ++ after, isBlank c = true) (ht : ∀ c ∈ t, isBlank c = false) :
    Trims (before ++ t ++ after) t where
  around := ⟨before, after, rfl, hblank⟩
  first c hc := ht c (List.mem_of_mem_head? hc)
  last c hc := ht c (List.mem_of_mem_getLast? hc)

end Text

-- ---------------------------------------------------------------------------
-- Digits
-- ---------------------------------------------------------------------------

/-- A character that is the digit `d` of a base up to 16, a letter in either case. -/
def Hex.IsDigit (base : Nat) (c : Char) (d : Nat) : Prop :=
  d < base ∧ (c = digit d ∨ c = lowerDigit d)

theorem Hex.eq_digit_of_value? (h : value? c = some d) : c = digit d ∨ c = lowerDigit d := by
  rw [value?_eq] at h
  repeat' split at h
  all_goals cases h
  · left
    rw [digit, if_pos (by omega), show 48 + (c.toNat - 48) = c.toNat by omega, Char.ofNat_toNat]
  · right
    rw [lowerDigit, if_neg (by omega), show 87 + (c.toNat - 87) =
      c.toNat by omega, Char.ofNat_toNat]
  · left
    rw [digit, if_neg (by omega), show 55 + (c.toNat - 55) = c.toNat by omega, Char.ofNat_toNat]

theorem Hex.value?_lowerDigit (hd : d < 16) : value? (lowerDigit d) = some d := by
  have hdigits : ∀ d : Fin 16, value? (lowerDigit d) = some d.val := by decide
  exact hdigits ⟨d, hd⟩

theorem Hex.isDigit_iff (hbase : base ≤ 16) : IsDigit base c d ↔ value? c = some d ∧ d < base := by
  constructor
  · rintro ⟨hd, rfl | rfl⟩
    · exact ⟨value?_digit (by omega), hd⟩
    · exact ⟨value?_lowerDigit (by omega), hd⟩
  · rintro ⟨hc, hd⟩
    exact ⟨hd, eq_digit_of_value? hc⟩

namespace Address

/-- One or more digits of a base, and their value, which is a 64-bit word. -/
structure Digits (base : Nat) (cs : List Char) (v : Nat) : Prop where
  nonempty : cs ≠ []
  value : ∃ ds, List.Forall₂ (Hex.IsDigit base) cs ds ∧ Nat.ofDigits base ds.reverse = v
  word : v < 2 ^ 64

/-- A plus sign may stand in front of the digits. -/
inductive Numeral (base : Nat) : List Char → Nat → Prop
  | plain (h : Digits base cs v) : Numeral base cs v
  | signed (h : Digits base cs v) : Numeral base ('+' :: cs) v

section
variable (hbase : base ≤ 16)
include hbase

theorem readDigit_eq_some_iff :
    ((Hex.value? c).bind fun d => if d < base then some (base * n + d) else none) = some m ↔
      ∃ d, Hex.IsDigit base c d ∧ base * n + d = m := by
  simp only [Option.bind_eq_some_iff, Option.ite_none_right_eq_some, Option.some.injEq,
    Hex.isDigit_iff hbase, and_assoc]

theorem readDigits_eq_some_iff (ds : List Nat) (cs : List Char) :
    cs.foldlM
      (fun n c => (Hex.value? c).bind fun d => if d < base then some (base * n + d) else none)
        (Nat.ofDigits base ds.reverse) = some v ↔
      ∃ es, List.Forall₂ (Hex.IsDigit base) cs es ∧ Nat.ofDigits base (ds ++ es).reverse = v := by
  induction cs generalizing ds with
  | nil => simp [List.forall₂_nil_left_iff]
  | cons c cs ih =>
    have hnext (d : Nat) :
        base * Nat.ofDigits base ds.reverse + d = Nat.ofDigits base (ds ++ [d]).reverse := by
      rw [List.reverse_append, List.reverse_singleton, List.singleton_append, Nat.ofDigits_cons,
        Nat.add_comm]
    rw [List.foldlM_cons, Option.bind_eq_bind, Option.bind_eq_some_iff]
    simp only [readDigit_eq_some_iff hbase]
    constructor
    · rintro ⟨_, ⟨d, hd, rfl⟩, h⟩
      rw [hnext] at h
      obtain ⟨es, hes, rfl⟩ := (ih _).mp h
      exact ⟨d :: es, .cons hd hes, by simp⟩
    · rintro ⟨_, hds, rfl⟩
      obtain ⟨d, es, hd, hes, rfl⟩ := List.forall₂_cons_left_iff.mp hds
      exact ⟨_, ⟨d, hd, hnext d⟩, (ih _).mpr ⟨es, hes, by simp⟩⟩

theorem digits_iff : Digits base cs v ↔ cs ≠ [] ∧ digitsValue? base cs = some v ∧ v < 2 ^ 64 := by
  have hvalue := readDigits_eq_some_iff (v := v) hbase [] cs
  constructor
  · rintro ⟨hne, hdigits, hword⟩
    exact ⟨hne, hvalue.mpr hdigits, hword⟩
  · rintro ⟨hne, hdigits, hword⟩
    exact ⟨hne, hvalue.mp hdigits, hword⟩

theorem not_digits_plus : ¬ Digits base ('+' :: cs) v := by
  rintro ⟨-, ⟨ds, hds, -⟩, -⟩
  obtain ⟨d, _, hd, -⟩ := List.forall₂_cons_left_iff.mp hds
  have hvalue : Hex.value? '+' = some d := ((Hex.isDigit_iff hbase).mp hd).1
  cases hvalue

theorem number?_eq_some_iff : number? base cs = some v ↔ Numeral base cs v := by
  have hdigits (cs : List Char) :
      (if cs.isEmpty then none else (digitsValue? base cs).filter (· < 2 ^ 64)) = some v ↔
        Digits base cs v := by
    simp [digits_iff hbase, Option.filter_eq_some_iff]
  unfold number?
  split
  next digits =>
    refine (hdigits digits).trans ⟨.signed, ?_⟩
    rintro (h | h)
    · exact absurd h (not_digits_plus hbase)
    · exact h
  next hplus =>
    refine (hdigits cs).trans ⟨.plain, ?_⟩
    rintro (h | h)
    · exact h
    · exact absurd rfl (hplus _)

end

-- ---------------------------------------------------------------------------
-- Addresses
-- ---------------------------------------------------------------------------

/-- `u` is a text without the mark of base 16, of which at most one is taken away. -/
inductive Unmarked : List Char → List Char → Prop
  | lower (u : List Char) : Unmarked ('0' :: 'x' :: u) u
  | upper (u : List Char) : Unmarked ('0' :: 'X' :: u) u
  | bare (hlower : ¬ ['0', 'x'] <+: u) (hupper : ¬ ['0', 'X'] <+: u) : Unmarked u u

/-- The address that a text without blanks around it stands for. -/
inductive Denotes : List Char → Nat → Prop
  | decimal (htrim : Text.Trims cs u) (h : Numeral 10 u v) : Denotes ('#' :: cs) v
  | hexadecimal (hmark : ¬ ['#'] <+: t) (hbare : Unmarked t u) (h : Numeral 16 u v) : Denotes t v

theorem denotes_decimal_iff : Denotes ('#' :: cs) v ↔ Numeral 10 (Text.trim cs) v := by
  constructor
  · rintro (⟨htrim, h⟩ | ⟨hmark, -, -⟩)
    · rwa [htrim.trim_eq]
    · exact absurd (by simp) hmark
  · exact .decimal (Text.trims_trim cs)

theorem Unmarked.unique (h : Unmarked t u) (h' : Unmarked t w) : w = u := by
  cases h with
  | lower =>
    cases h' with
    | lower => rfl
    | bare hlower => exact absurd (by simp) hlower
  | upper =>
    cases h' with
    | upper => rfl
    | bare _ hupper => exact absurd (by simp) hupper
  | bare hlower hupper =>
    cases h' with
    | lower => exact absurd (by simp) hlower
    | upper => exact absurd (by simp) hupper
    | bare => rfl

theorem denotes_unmarked_iff (hmark : ¬ ['#'] <+: t) (hbare : Unmarked t u) :
    Denotes t v ↔ Numeral 16 u v := by
  constructor
  · rintro (_ | ⟨-, hother, h⟩)
    · exact absurd (by simp) hmark
    · rwa [← hbare.unique hother]
  · exact .hexadecimal hmark hbare

theorem parse?_eq_some_iff (text : String) :
    parse? text = some v ↔ Denotes (Text.trim text.toList) v := by
  unfold parse?
  generalize Text.trim text.toList = t
  split
  next cs => rw [denotes_decimal_iff, number?_eq_some_iff (by decide)]
  next cs => rw [denotes_unmarked_iff (by simp) (.lower cs), number?_eq_some_iff (by decide)]
  next cs => rw [denotes_unmarked_iff (by simp) (.upper cs), number?_eq_some_iff (by decide)]
  next hdecimal hlower hupper =>
    have hmark : ¬ ['#'] <+: t := by
      rintro ⟨cs, rfl⟩
      exact hdecimal cs rfl
    have hbare : Unmarked t t := by
      refine .bare ?_ ?_
      · rintro ⟨cs, rfl⟩
        exact hlower cs rfl
      · rintro ⟨cs, rfl⟩
        exact hupper cs rfl
    rw [denotes_unmarked_iff hmark hbare, number?_eq_some_iff (by decide)]

-- ---------------------------------------------------------------------------
-- Written addresses
-- ---------------------------------------------------------------------------

theorem numeral_format (width : AddressWidth) (h : address < 2 ^ 64) :
    Numeral 16 (width.format address).toList address :=
  .plain ((digits_iff (by decide)).mpr ⟨Hex.padded_ne_nil _ _, digitsValue?_padded _ _, h⟩)

theorem unmarked_of_allDigits (h : Hex.AllDigits cs) : ¬ ['#'] <+: cs ∧ Unmarked cs cs := by
  have hother {c : Char} (hc : c = '#' ∨ c = 'x' ∨ c = 'X') : c ∉ cs := by
    intro hmem
    obtain ⟨d, hd, rfl⟩ := h c hmem
    obtain ⟨hdecimal, hlower, hupper⟩ := digit_ne_mark hd
    rcases hc with hc | hc | hc
    · exact hdecimal hc
    · exact hlower hc
    · exact hupper hc
  refine ⟨fun hp => ?_, .bare (fun hp => ?_) (fun hp => ?_)⟩
  · exact hother (.inl rfl) (hp.subset (by simp))
  · exact hother (.inr (.inl rfl)) (hp.subset (by simp))
  · exact hother (.inr (.inr rfl)) (hp.subset (by simp))

section
variable (width : AddressWidth) (haddress : address < 2 ^ 64) (hmark : mark ∈ ["", "0x", "0X"])
include hmark

theorem not_blank_format (address : Nat) :
    ∀ c ∈ mark.toList ++ (width.format address).toList, Text.isBlank c = false := by
  intro c hc
  rcases List.mem_append.mp hc with hc | hc
  · have hmarks : ∀ mark ∈ ["", "0x", "0X"], mark.toList.all (!Text.isBlank ·) = true := by decide
    simpa using List.all_eq_true.mp (hmarks mark hmark) c hc
  · obtain ⟨d, hd, rfl⟩ := Hex.allDigits_padded width.digits address c hc
    exact not_blank_digit hd

include haddress

theorem denotes_format : Denotes (mark.toList ++ (width.format address).toList) address := by
  have hnumeral := numeral_format width haddress
  simp only [List.mem_cons, List.not_mem_nil, or_false] at hmark
  rcases hmark with rfl | rfl | rfl
  · obtain ⟨hdecimal, hbare⟩ := unmarked_of_allDigits (Hex.allDigits_padded width.digits address)
    exact .hexadecimal hdecimal hbare hnumeral
  · exact .hexadecimal (by simp) (.lower _) hnumeral
  · exact .hexadecimal (by simp) (.upper _) hnumeral

/-- What is written for an address is read back, also with a mark in front and blanks around. -/
theorem parse?_written (before after : String)
    (hblank : ∀ c ∈ before.toList ++ after.toList, Text.isBlank c = true) :
    parse? (before ++ mark ++ width.format address ++ after) = some address := by
  have htrim := Text.trims_of_not_blank hblank (not_blank_format width hmark address)
  rw [parse?_eq_some_iff]
  simp only [String.toList_append, List.append_assoc] at htrim ⊢
  rw [htrim.trim_eq]
  exact denotes_format width haddress hmark

end

theorem parse?_format (width : AddressWidth) (h : address < 2 ^ 64) :
    parse? (width.format address) = some address := by
  have hbare : "" ∈ ["", "0x", "0X"] := by decide
  simpa using parse?_written width h hbare "" "" (by simp)

/-- The reader accepts the texts that are addresses and no others. So it reads what is written for
an address of either width, with or without a mark of the base, and with blanks around it. -/
theorem parse?_eq_some_iff_denotes :
    (∀ text v, parse? text = some v ↔ ∃ t, Text.Trims text.toList t ∧ Denotes t v) ∧
    ∀ address < 2 ^ 64, ∀ width : AddressWidth, ∀ mark ∈ ["", "0x", "0X"], ∀ before after : String,
      (∀ c ∈ before.toList ++ after.toList, Text.isBlank c = true) →
        parse? (before ++ mark ++ width.format address ++ after) = some address := by
  constructor
  · intro text v
    rw [parse?_eq_some_iff]
    constructor
    · intro h
      exact ⟨_, Text.trims_trim _, h⟩
    · rintro ⟨t, htrim, h⟩
      rwa [htrim.trim_eq]
  · intro address haddress width mark hmark before after hblank
    exact parse?_written width haddress hmark before after hblank

/-- The largest address needs more digits than a width of 32 bits has, and the number after it is no
address. -/
theorem parse?_eq_some_iff_denotes_top :
    parse? ("\u3000 " ++ "0x" ++ AddressWidth.bits32.format (2 ^ 64 - 1) ++ "\t") =
      some (2 ^ 64 - 1) ∧
      (∃ t, Text.Trims " # +18446744073709551615".toList t ∧ Denotes t (2 ^ 64 - 1)) ∧
      ∀ v, ¬ ∃ t, Text.Trims "#18446744073709551616".toList t ∧ Denotes t v := by
  obtain ⟨haccepts, hformat⟩ := parse?_eq_some_iff_denotes
  have hblank :=
    List.all_eq_true.mp (show ("\u3000 ".toList ++ "\t".toList).all Text.isBlank = true by decide)
  refine ⟨hformat _ (by decide) .bits32 "0x" (by decide) "\u3000 " "\t" hblank,
    (haccepts _ _).mp (by decide +kernel), ?_⟩
  intro v
  have hrefused : parse? "#18446744073709551616" = none := by decide +kernel
  rw [← haccepts, hrefused]
  exact (Option.some_ne_none v).symm

end Address

end HexEditor
