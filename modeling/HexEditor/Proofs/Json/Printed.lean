import HexEditor.Json

/-!
# Printed values are read back

`parse?_pretty`: a value that is printed and read again is the same value. The text of a value is
scanned into the tokens of the value, and the reader takes these tokens one after the other. A token
ends where the next one starts, except for a number, which ends before a comma or a line break.
-/

namespace HexEditor.Json

/-- A value whose numbers are natural numbers, and whose strings and names have a text. -/
inductive Plain : Json → Prop
  | null : Plain .null
  | bool (b : Bool) : Plain (.bool b)
  | number (n : Nat) : Plain (.ofNat n)
  | string (text : String) : Plain (.ofText text)
  | array {items : List Json} (h : ∀ j ∈ items, Plain j) : Plain (.array items)
  | object {members : List (String × Json)} (h : ∀ m ∈ members, Plain m.2) :
      Plain (.ofMembers members)

-- ---------------------------------------------------------------------------
-- Numbers
-- ---------------------------------------------------------------------------

/-- What follows a value: nothing, a comma or a line break. -/
inductive Ends : List Char → Prop
  | nothing : Ends []
  | comma (cs : List Char) : Ends (',' :: cs)
  | newline (cs : List Char) : Ends ('\n' :: cs)

theorem head?_toDigits {n : Nat} (h : n ≠ 0) : (Nat.toDigits 10 n).head? ≠ some '0' := by
  induction n using Nat.strongRecOn with
  | ind n ih =>
    rw [Nat.toDigits_eq_if (by decide)]
    split
    · simp [Nat.digitChar_eq_zero, h]
    · rw [List.head?_append, Option.or_of_isSome (by simp [Nat.toDigits_ne_nil])]
      exact ih (n / 10) (by omega) (by omega)

theorem digits_append {ds rest : List Char} (hds : ∀ c ∈ ds, c.isDigit) (hrest : Ends rest) :
    digits (ds ++ rest) = (ds, rest) := by
  have hnone : rest.takeWhile Char.isDigit = [] ∧ rest.dropWhile Char.isDigit = rest := by
    cases hrest <;> exact ⟨rfl, rfl⟩
  rw [digits, List.takeWhile_append_of_pos hds, List.dropWhile_append_of_pos hds, hnone.1, hnone.2,
    List.append_nil]

theorem isDigit_of_mem (hc : c ∈ Nat.toDigits 10 n) : c.isDigit :=
  Nat.isDigit_of_mem_toDigits (by decide) (by decide) hc

theorem exists_digit (n : Nat) : ∃ c cs, Nat.toDigits 10 n = c :: cs ∧ c.isDigit := by
  obtain ⟨c, cs, hdigits⟩ := List.exists_cons_of_ne_nil (Nat.toDigits_ne_nil (n := n) (b := 10))
  exact ⟨c, cs, hdigits, isDigit_of_mem (n := n) (hdigits ▸ List.mem_cons_self)⟩

theorem whole?_toDigits (n : Nat) (hrest : Ends rest) :
    whole? (Nat.toDigits 10 n ++ rest) = some (Nat.toDigits 10 n, rest) := by
  rw [whole?, digits_append (fun c => isDigit_of_mem) hrest]
  by_cases hn : n = 0
  · subst hn
    rfl
  · have hhead := head?_toDigits hn
    split
    next hnil => exact absurd (Prod.mk.inj hnil).1 Nat.toDigits_ne_nil
    next hzero => simp [(Prod.mk.inj hzero).1] at hhead
    next => rfl

theorem number?_toDigits (n : Nat) (hrest : Ends rest) :
    number? (Nat.toDigits 10 n ++ rest) = some (Nat.toDigits 10 n, rest) := by
  have hfraction : fraction? rest = some ([], rest) := by
    cases hrest <;> rfl
  have hexponent : exponent? rest = some ([], rest) := by
    cases hrest <;> rfl
  have hunsigned : unsigned? (Nat.toDigits 10 n ++ rest) = some (Nat.toDigits 10 n, rest) := by
    simp [unsigned?, whole?_toDigits n hrest, hfraction, hexponent]
  obtain ⟨c, cs, hdigits, hc⟩ := exists_digit n
  unfold number?
  split
  next cs' heq =>
    rw [hdigits] at heq
    cases heq
    cases hc
  next => exact hunsigned

theorem token?_of_digit (hc : c.isDigit) (cs : List Char) :
    token? (c :: cs) = (number? (c :: cs)).map fun (lexeme, rest) =>
      (.number (String.ofList lexeme), rest) := by
  unfold token?
  split
  case h_11 => rfl
  all_goals
    rename_i heq
    cases heq
    cases hc

theorem token?_number (n : Nat) (hrest : Ends rest) :
    token? (Nat.toDigits 10 n ++ rest) = some (.number (toString n), rest) := by
  obtain ⟨c, cs, hdigits, hc⟩ := exists_digit n
  have hnumber := number?_toDigits n hrest
  rw [hdigits] at hnumber ⊢
  rw [List.cons_append, token?_of_digit hc, ← List.cons_append, hnumber, ← hdigits]
  rfl

theorem decimal_toDigits (n : Nat) : decimal (Nat.toDigits 10 n) = n :=
  Nat.ofDigitChars_ten_toDigits

theorem nat?_ofNat (h : n < bound) : nat? bound (.ofNat n) = some n := by
  have hall : (Nat.toDigits 10 n).all Char.isDigit :=
    List.all_eq_true.mpr fun c => isDigit_of_mem
  simp [ofNat, nat?, decimal_toDigits, h, hall]

-- ---------------------------------------------------------------------------
-- Strings
-- ---------------------------------------------------------------------------

theorem value?_lowerDigit : ∀ d < 16, Hex.value? (Hex.lowerDigit d) = some d := by
  decide

theorem unit?_control (hn : n < 0x20) :
    unit? '0' '0' (Hex.lowerDigit (n / 16)) (Hex.lowerDigit (n % 16)) = some n := by
  have hzero : Hex.value? '0' = some 0 := rfl
  simp only [unit?, hzero, value?_lowerDigit (n / 16) (by omega),
    value?_lowerDigit (n % 16) (by omega)]
  exact congrArg some (by omega)

theorem text?_unit (hn : n < 0x20) (pieces : List Piece) :
    text? (.unit n :: pieces) = (text? pieces).map (Char.ofNat n :: ·) := by
  have hhigh : isHighSurrogate n = false := by grind [isHighSurrogate]
  have hlow : isLowSurrogate n = false := by grind [isLowSurrogate]
  cases pieces with
  | nil => simp [text?, hhigh, hlow]
  | cons p pieces => cases p <;> simp [text?, hhigh, hlow]

theorem pieces?_escape (h : escaped? c = some d) (cs : List Char) :
    pieces? ('\\' :: c :: cs) = (pieces? cs).map fun (pieces, rest) =>
      (.char d :: pieces, rest) := by
  have hc : c ≠ 'u' := by
    rintro rfl
    cases h
  rw [pieces?, h]
  · cases pieces? cs <;> rfl
  · exact fun _ _ _ _ _ hu => absurd hu hc

theorem pieces?_char (hquote : c ≠ '"') (hbackslash : c ≠ '\\') (hcontrol : ¬ c.toNat < 0x20)
    (cs : List Char) :
    pieces? (c :: cs) = (pieces? cs).map fun (pieces, rest) => (.char c :: pieces, rest) := by
  rw [pieces?, if_neg hcontrol]
  · cases pieces? cs <;> rfl
  all_goals grind

theorem exists_piece (c : Char) :
    ∃ p, (∀ cs, pieces? (escapeChar c ++ cs) = (pieces? cs).map fun (pieces, rest) =>
      (p :: pieces, rest)) ∧
      ∀ pieces, text? (p :: pieces) = (text? pieces).map (c :: ·) := by
  unfold escapeChar
  split
  case h_8 hquote hbackslash _ _ _ _ _ =>
    split
    next hcontrol =>
      refine ⟨.unit c.toNat, fun cs => ?_, fun pieces => ?_⟩
      · simp only [List.cons_append, List.nil_append, pieces?, unit?_control hcontrol]
        cases pieces? cs <;> rfl
      · rw [text?_unit hcontrol, Char.ofNat_toNat]
    next hcontrol =>
      refine ⟨.char c, fun cs => ?_, fun pieces => rfl⟩
      exact pieces?_char hquote hbackslash hcontrol cs
  all_goals exact ⟨.char _, pieces?_escape rfl, fun pieces => rfl⟩

theorem exists_pieces (cs rest : List Char) :
    ∃ pieces, pieces? (cs.flatMap escapeChar ++ '"' :: rest) = some (pieces, rest) ∧
      text? pieces = some cs := by
  induction cs with
  | nil => exact ⟨[], rfl, rfl⟩
  | cons c cs ih =>
    obtain ⟨p, hread, htext⟩ := exists_piece c
    obtain ⟨pieces, hpieces, hcs⟩ := ih
    refine ⟨p :: pieces, ?_, ?_⟩
    · rw [List.flatMap_cons, List.append_assoc, hread, hpieces]
      rfl
    · rw [htext, hcs]
      rfl

theorem token?_literal (text : String) (rest : List Char) :
    token? ((literal (some text)).toList ++ rest) = some (.string (some text), rest) := by
  obtain ⟨pieces, hpieces, htext⟩ := exists_pieces text.toList rest
  simp [literal, token?, hpieces, htext]

-- ---------------------------------------------------------------------------
-- Reading
-- ---------------------------------------------------------------------------

/-- A reader that takes the tokens of a text one after the other ends with the value `j`. -/
inductive Reads (j : Json) : Reader → List Char → Prop
  | done : Reads j (.done j) []
  | blank (hc : isBlank c) (hcs : Reads j r cs) : Reads j r (c :: cs)
  | token (hc : ¬ isBlank c) (htoken : token? (c :: cs) = some (t, rest))
      (hlength : rest.length ≤ cs.length) (hstep : r.step t = some r') (hrest : Reads j r' rest) :
      Reads j r (c :: cs)

-- Every token takes a character, so the length of the text bounds the number of tokens.
theorem Reads.exists_tokens (h : Reads j r cs) :
    ∃ tokens, (∀ found bound, cs.length < bound →
      tokensAfter? found bound cs = some (found.reverse ++ tokens)) ∧
      tokens.foldlM Reader.step r = some (.done j) := by
  induction h with
  | done =>
    refine ⟨[], fun found bound hbound => ?_, rfl⟩
    obtain ⟨bound, rfl⟩ := Nat.exists_eq_add_of_lt hbound
    simp [tokensAfter?]
  | blank hc hcs ih =>
    obtain ⟨tokens, hscan, hread⟩ := ih
    refine ⟨tokens, fun found bound hbound => ?_, hread⟩
    cases bound with
    | zero => cases hbound
    | succ bound =>
      rw [tokensAfter?, if_pos hc]
      exact hscan found bound (Nat.lt_of_succ_lt_succ hbound)
  | @token c cs t rest r r' hc htoken hlength hstep hrest ih =>
    obtain ⟨tokens, hscan, hread⟩ := ih
    refine ⟨t :: tokens, fun found bound hbound => ?_, ?_⟩
    · cases bound with
      | zero => cases hbound
      | succ bound =>
        rw [tokensAfter?, if_neg hc, htoken]
        simp [hscan (t :: found) bound (Nat.lt_of_le_of_lt hlength (Nat.lt_of_succ_lt_succ hbound))]
    · simp [List.foldlM_cons, hstep, hread]

theorem Reads.arrayStart (h : Reads j (.value (.array [] :: around)) cs) :
    Reads j (.arrayStart around) cs := by
  generalize hr : Reader.value (.array [] :: around) = r at h
  induction h with
  | done => cases hr
  | blank hc hcs ih => exact .blank hc (ih hr)
  | @token c cs t rest r r' hc htoken hlength hstep hrest ih =>
    subst hr
    refine .token hc htoken hlength ?_ hrest
    cases t with
    | closeBracket => cases hstep
    | _ => exact hstep

theorem Reads.newline (level : Nat) (h : Reads j r cs) :
    Reads j r ((Json.newline level).toList ++ cs) := by
  have hspaces : ∀ n, Reads j r (List.replicate n ' ' ++ cs) := by
    intro n
    induction n with
    | zero => exact h
    | succ n ih => exact .blank rfl ih
  rw [Json.newline, String.toList_ofList]
  exact .blank rfl (hspaces (2 * level))

theorem Reads.literal (h : Reads j r' rest) (hstep : r.step (.string (some text)) = some r') :
    Reads j r ((Json.literal (some text)).toList ++ rest) := by
  have htoken := token?_literal text rest
  rw [Json.literal, String.toList_ofList] at htoken ⊢
  exact .token (by decide) htoken (by simp; omega) hstep h

theorem Reads.number (hrest : Ends rest) (h : Reads j (.finish (.ofNat n) around) rest) :
    Reads j (.value around) ((toString n).toList ++ rest) := by
  have htoken := token?_number n hrest
  obtain ⟨c, cs, hdigits, hc⟩ := exists_digit n
  rw [Nat.toString_eq_ofList_toDigits, String.toList_ofList]
  rw [hdigits] at htoken ⊢
  refine .token ?_ htoken (by simp) rfl h
  intro hblank
  simp only [isBlank, Bool.or_eq_true, decide_eq_true_eq] at hblank
  obtain ((rfl | rfl) | rfl) | rfl := hblank <;> cases hc

/-- A printed value is read as one value, whatever is around it. -/
def ReadBack (j : Json) : Prop :=
  ∀ level around rest k, Ends rest → Reads k (.finish j around) rest →
    Reads k (.value around) ((j.prettyAt level).toList ++ rest)

theorem Ends.newline_append (level : Nat) (rest : List Char) :
    Ends ((Json.newline level).toList ++ rest) := by
  rw [Json.newline, String.toList_ofList]
  exact .newline _

theorem Ends.items (hrest : Ends rest) (level : Nat) (items : List Json) :
    Ends ((prettyItems level items).toList ++ rest) := by
  cases items with
  | nil => exact hrest
  | cons item items =>
    simp only [prettyItems, String.toList_append, List.append_assoc]
    exact .comma _

theorem Ends.members (hrest : Ends rest) (level : Nat) (members : List (Option String × Json)) :
    Ends ((prettyMembers level members).toList ++ rest) := by
  cases members with
  | nil => exact hrest
  | cons member members =>
    simp only [prettyMembers, String.toList_append, List.append_assoc]
    exact .comma _

theorem Reads.items {items : List Json} (hitems : ∀ item ∈ items, ReadBack item) (hrest : Ends rest)
    (h : Reads k (.afterItem (items.reverse ++ before) around) rest) :
    Reads k (.afterItem before around) ((prettyItems level items).toList ++ rest) := by
  induction items generalizing before with
  | nil => exact h
  | cons item items ih =>
    simp only [prettyItems, String.toList_append, List.append_assoc]
    refine .token (by decide) rfl (Nat.le_refl _) rfl (.newline level ?_)
    refine hitems item List.mem_cons_self level _ _ k (hrest.items level items) ?_
    refine ih (fun j hj => hitems j (List.mem_cons_of_mem _ hj)) ?_
    simpa using h

theorem ReadBack.array (hitems : ∀ item ∈ items, ReadBack item) : ReadBack (.array items) := by
  intro level around rest k hrest h
  cases items with
  | nil =>
    rw [prettyAt]
    change Reads k (.value around) ('[' :: ']' :: rest)
    exact .token (by decide) rfl (Nat.le_refl _) rfl (.token (by decide) rfl (Nat.le_refl _) rfl h)
  | cons item items =>
    simp only [prettyAt, String.toList_append, List.append_assoc]
    refine .token (by decide) rfl (Nat.le_refl _) rfl (.newline _ (.arrayStart ?_))
    refine hitems item List.mem_cons_self _ _ _ k ((Ends.newline_append level _).items _ items) ?_
    refine .items (fun j hj => hitems j (List.mem_cons_of_mem _ hj)) (.newline_append level _)
      (.newline level ?_)
    exact .token (by decide) rfl (Nat.le_refl _) (by simp [Reader.step]) h

theorem Reads.member (hvalue : ReadBack value) (hrest : Ends rest)
    (hname : r.step (.string (some name)) = some (.afterName (some name) before around))
    (h : Reads k (.afterMember ((some name, value) :: before) around) rest) :
    Reads k r ((Json.literal (some name)).toList ++
      (": ".toList ++ ((value.prettyAt level).toList ++ rest))) := by
  have hread := hvalue level (.object before (some name) :: around) rest k hrest h
  have hcolon : Reads k (.afterName (some name) before around)
      (':' :: ' ' :: ((value.prettyAt level).toList ++ rest)) :=
    .token (by decide) rfl (Nat.le_refl _) rfl (.blank rfl hread)
  exact .literal hcolon hname

theorem Reads.members {members : List (String × Json)} (hmembers : ∀ m ∈ members, ReadBack m.2)
    (hrest : Ends rest)
    (h : Reads k (.afterMember
      ((members.map fun (name, value) => (some name, value)).reverse ++ before) around) rest) :
    Reads k (.afterMember before around)
      ((prettyMembers level (members.map fun (name, value) => (some name, value))).toList ++
        rest) := by
  induction members generalizing before with
  | nil => exact h
  | cons member members ih =>
    simp only [List.map_cons, prettyMembers, String.toList_append, List.append_assoc]
    refine .token (by decide) rfl (Nat.le_refl _) rfl (.newline level ?_)
    refine .member (hmembers member List.mem_cons_self) (hrest.members level _) rfl ?_
    refine ih (fun m hm => hmembers m (List.mem_cons_of_mem _ hm)) ?_
    simpa using h

theorem ReadBack.ofMembers {members : List (String × Json)}
    (hmembers : ∀ m ∈ members, ReadBack m.2) :
    ReadBack (.ofMembers members) := by
  intro level around rest k hrest h
  cases members with
  | nil =>
    rw [Json.ofMembers, List.map_nil, prettyAt]
    change Reads k (.value around) ('\x7b' :: '\x7d' :: rest)
    exact .token (by decide) rfl (Nat.le_refl _) rfl (.token (by decide) rfl (Nat.le_refl _) rfl h)
  | cons member members =>
    simp only [Json.ofMembers, List.map_cons, prettyAt, String.toList_append, List.append_assoc]
    refine .token (by decide) rfl (Nat.le_refl _) rfl (.newline _ ?_)
    refine .member (hmembers member List.mem_cons_self)
      ((Ends.newline_append level _).members _ _) rfl ?_
    refine .members (fun m hm => hmembers m (List.mem_cons_of_mem _ hm)) (.newline_append level _)
      (.newline level ?_)
    refine .token (by decide) rfl (Nat.le_refl _) rfl ?_
    simpa [Json.ofMembers] using h

theorem Plain.readBack (h : Plain j) : ReadBack j := by
  induction h with
  | null =>
    intro level around rest k hrest h
    rw [prettyAt]
    change Reads k (.value around) ('n' :: 'u' :: 'l' :: 'l' :: rest)
    exact .token (by decide) rfl (Nat.le_add_right _ 3) rfl h
  | bool b =>
    intro level around rest k hrest h
    cases b <;> rw [prettyAt]
    · change Reads k (.value around) ('f' :: 'a' :: 'l' :: 's' :: 'e' :: rest)
      exact .token (by decide) rfl (Nat.le_add_right _ 4) rfl h
    · change Reads k (.value around) ('t' :: 'r' :: 'u' :: 'e' :: rest)
      exact .token (by decide) rfl (Nat.le_add_right _ 3) rfl h
  | number n => exact fun level around rest k hrest h => .number hrest h
  | string text => exact fun level around rest k hrest h => .literal h rfl
  | array h ih => exact .array ih
  | object h ih => exact .ofMembers ih

/-- Reading a printed value gives the value. -/
theorem parse?_pretty (h : Plain j) : parse? j.pretty = some j := by
  have hread : Reads j (.value []) j.pretty.toList := by
    simpa [pretty] using h.readBack 0 [] [] j .nothing .done
  obtain ⟨tokens, hscan, hvalue⟩ := hread.exists_tokens
  have htokens : tokens? j.pretty.toList = some tokens := hscan [] _ (Nat.lt_succ_self _)
  simp [parse?, htokens, ofTokens?, hvalue]

end HexEditor.Json
