import HexEditor.Proofs.Json.Printed

/-!
# Values with members deleted

A member is named by its path: the names of the objects around it, from the outside in, and its own.
`without` deletes every member whose path is `gone`. What `fields?` then reads is missing exactly
the fields that were deleted.
-/

namespace HexEditor.Json

mutual

def without (gone : List String → Bool) : Json → Json
  | object members => object (membersWithout gone members)
  | j => j

def membersWithout (gone : List String → Bool) :
    List (Option String × Json) → List (Option String × Json)
  | [] => []
  | (none, value) :: members => (none, value) :: membersWithout gone members
  | (some name, value) :: members =>
    if gone [name] then membersWithout gone members
    else (some name, value.without fun path => gone (name :: path)) :: membersWithout gone members

end

variable (gone : List String → Bool)

@[simp] theorem without_ofNat (n : Nat) : (ofNat n).without gone = ofNat n := by
  simp [ofNat, without]

@[simp] theorem without_ofText (text : String) : (ofText text).without gone = ofText text := by
  simp [ofText, without]

@[simp] theorem without_bool (b : Bool) : (bool b).without gone = bool b := by
  simp [without]

def remains (m : String × Json) : Option Json :=
  if gone [m.1] then none else some (m.2.without fun path => gone (m.1 :: path))

def remaining (members : List (String × Json)) : List (String × Json) :=
  members.filterMap fun m => (remains gone m).map (m.1, ·)

theorem without_ofMembers (members : List (String × Json)) :
    (ofMembers members).without gone = ofMembers (remaining gone members) := by
  rw [ofMembers, ofMembers, without]
  congr 1
  induction members with
  | nil => simp [membersWithout, remaining]
  | cons m members ih =>
    simp only [List.map_cons, membersWithout, ih, remaining, remains, List.filterMap_cons]
    split <;> simp

theorem Plain.without (h : Plain j) (gone : List String → Bool) : Plain (j.without gone) := by
  induction h generalizing gone with
  | null => simpa [Json.without] using .null
  | bool b => simpa using .bool b
  | number n => simpa using .number n
  | string text => simpa using .string text
  | array h ih => simpa [Json.without] using .array h
  | object h ih =>
    rw [without_ofMembers]
    refine .object fun left hleft => ?_
    simp only [remaining, remains, List.mem_filterMap, Option.map_eq_some_iff] at hleft
    obtain ⟨m, hm, value, hvalue, rfl⟩ := hleft
    split at hvalue
    · cases hvalue
    · cases hvalue
      exact ih m hm _

theorem Plain.without_nothing (h : Plain j) : (j.without fun _ => false) = j := by
  induction h with
  | null => simp [Json.without]
  | bool b => simp
  | number n => simp
  | string text => simp
  | array h ih => simp [Json.without]
  | @object members h ih =>
    have hall : remaining (fun _ => false) members = members.map fun m =>
      (m.1, m.2.without fun _ => false) := by
      simp [remaining, remains]
    have hkept : members.map (fun m => (m.1, m.2.without fun _ => false)) = members.map id :=
      List.map_congr_left fun m hm => by rw [ih m hm, id]
    rw [without_ofMembers, hall, hkept, List.map_id]

theorem names_remaining (members : List (String × Json)) :
    ((remaining gone members).map Prod.fst).Sublist (members.map Prod.fst) := by
  induction members with
  | nil => exact .slnil
  | cons m members ih =>
    cases h : remains gone m with
    | none => simpa [remaining, h] using ih.cons m.1
    | some value => simpa [remaining, h] using ih

theorem lookup_remaining {members : List (String × Json)} (hnames : (members.map Prod.fst).Nodup)
    (hm : m ∈ members) :
    (remaining gone members).lookup m.1 = remains gone m := by
  induction members with
  | nil => cases hm
  | cons first members ih =>
    obtain ⟨hfirst, hnames⟩ := List.nodup_cons.mp hnames
    cases hm with
    | head =>
      cases h : remains gone m with
      | none =>
        have hnone : (remaining gone members).lookup m.1 = none := by
          rw [List.lookup_eq_none_iff]
          rintro left hleft
          have := (names_remaining gone members).subset (List.mem_map_of_mem hleft)
          grind
        simpa [remaining, h] using hnone
      | some value => simp [remaining, h]
    | tail _ hm =>
      have hne : m.1 ≠ first.1 := by
        intro heq
        exact hfirst (heq ▸ List.mem_map_of_mem hm)
      rw [← ih hnames hm]
      cases h : remains gone first with
      | none => simp [remaining, h]
      | some value => simp [remaining, h, List.lookup_cons, beq_false_of_ne hne]

theorem fields?_without {members : List (String × Json)} {names : List String}
    (hmembers : members.map Prod.fst = names) (hnames : names.Nodup) :
    ((ofMembers members).without gone).fields? names = some (members.map (remains gone)) := by
  subst hmembers
  have hlookup (name : String) (left : List (String × Json)) :
      (left.map fun m => (some m.1, m.2)).lookup (some name) = left.lookup name := by
    induction left with
    | nil => rfl
    | cons m left ih =>
      rw [List.map_cons, List.lookup_cons, List.lookup_cons, ih, Option.some_beq_some]
  have hknown : ((remaining gone members).map fun m => (some m.1, m.2)).filterMap (·.1) =
      (remaining gone members).map Prod.fst := by
    rw [List.filterMap_map]
    exact congrFun List.filterMap_eq_map _
  rw [without_ofMembers, ofMembers, fields?]
  simp only [hlookup, List.map_map]
  rw [if_pos]
  · exact congrArg some (List.map_congr_left fun m hm => lookup_remaining gone hnames hm)
  · refine ⟨by simp, ?_⟩
    rw [hknown]
    exact (hnames.sublist (names_remaining gone members)).sublist List.filter_sublist

theorem optional_remains {read : Json → Option α}
    (h : read (value.without fun path => gone (name :: path)) = some x)
    (fallback : α) : optional read fallback (remains gone (name, value)) =
    some (if gone [name] then fallback else x) := by
  unfold remains
  split <;> simp_all [optional]

theorem optional_nat? (h : n < bound) (fallback : Nat) :
    optional (nat? bound) fallback (remains gone (name, ofNat n)) =
      some (if gone [name] then fallback else n) :=
  optional_remains gone (by simpa using nat?_ofNat h) fallback

theorem optional_bool? (b fallback : Bool) :
    optional bool? fallback (remains gone (name, .bool b)) =
      some (if gone [name] then fallback else b) :=
  optional_remains gone (by simp [bool?]) fallback

end HexEditor.Json
