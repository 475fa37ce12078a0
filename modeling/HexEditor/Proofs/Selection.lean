import HexEditor.Selection
import Mathlib.Algebra.Group.Int.Defs
import Mathlib.Algebra.Group.Nat.Defs

/-!
# Selections within their limits

A selection stores its anchor and a signed distance. As long as the limit is a signed 64-bit number,
every operation leaves both ends within `[0, limit]` and the distance between them exact.
-/

namespace HexEditor

theorem Offset.distance_eq_bmod (a b : Nat) : distance a b = ((b : Int) - a).bmod (2 ^ 64) := by
  rw [distance, BitVec.toInt_sub, BitVec.toInt_ofNat', BitVec.toInt_ofNat', Int.sub_bmod_bmod,
    Int.bmod_sub_bmod]

theorem Offset.distance_eq {a b : Nat} (h : b < a + 2 ^ 63) (h' : a ≤ b + 2 ^ 63) :
    distance a b = b - a := by
  rw [distance_eq_bmod, Int.bmod_eq_of_le] <;> omega

namespace Selection

/-- Both ends lie within the limits, and the caret is exactly `length` nibbles from the anchor. -/
structure Exact (s : Selection) : Prop where
  start_le : s.start ≤ s.limit
  caret_le : s.caret ≤ s.limit
  caret_eq : (s.caret : Int) = s.start + s.length

variable {s : Selection}

theorem clamp_le (s : Selection) (nibble : Int) : s.clamp nibble ≤ s.limit :=
  Nat.min_le_right _ _

theorem caret_collapse (s : Selection) (hn : n ≤ Offset.top) : (s.collapse n).caret = n := by
  change min ((n : Int) + 0).toNat Offset.top = n
  omega

theorem moveBy_forward (s : Selection) (k : Nat) :
    s.moveBy k false = s.collapse (min (s.caret + k) s.limit) :=
  rfl

theorem caret_moveBy_one (hlimit : s.caret < s.limit) (htop : s.caret < Offset.top) :
    (s.moveBy 1 false).caret = s.caret + 1 := by
  have hclamp : s.clamp (s.caret + 1) = s.caret + 1 := by
    unfold clamp
    omega
  change (s.collapse (s.clamp (s.caret + 1))).caret = s.caret + 1
  rw [hclamp]
  exact s.caret_collapse htop

section
variable (hlimit : s.limit < 2 ^ 63)
include hlimit

theorem length_reach (hstart : s.start ≤ s.limit) (hn : n ≤ s.limit) :
    (s.reach n).length = n - s.start := by
  exact Offset.distance_eq (by omega) (by omega)

theorem caret_reach (hstart : s.start ≤ s.limit) (hn : n ≤ s.limit) : (s.reach n).caret = n := by
  rw [caret, length_reach hlimit hstart hn]
  change min ((s.start : Int) + (n - s.start)).toNat Offset.top = n
  unfold Offset.top
  omega

theorem exact_reach (hstart : s.start ≤ s.limit) (hn : n ≤ s.limit) : (s.reach n).Exact := by
  have hcaret := caret_reach hlimit hstart hn
  refine ⟨hstart, ?_, ?_⟩
  · rw [hcaret]
    exact hn
  · rw [hcaret, length_reach hlimit hstart hn]
    change (n : Int) = s.start + (n - s.start)
    omega

theorem exact_collapse (hn : n ≤ s.limit) : (s.collapse n).Exact := by
  have hcaret := s.caret_collapse (show n ≤ Offset.top by unfold Offset.top; omega)
  refine ⟨hn, ?_, ?_⟩
  · rw [hcaret]
    exact hn
  · rw [hcaret]
    exact (Int.add_zero _).symm

end

theorem limit_moveBy (s : Selection) (delta : Int) (extend : Bool) :
    (s.moveBy delta extend).limit = s.limit := by
  unfold moveBy
  split <;> rfl

theorem setCaret_ok (h : s.setCaret n = .ok t) : n ≤ s.limit ∧ t = s.collapse n := by
  unfold setCaret at h
  split at h
  · cases h
  · cases h
    exact ⟨by omega, rfl⟩

theorem exact_setLimit (s : Selection) (hn : n < 2 ^ 63) : (s.setLimit n).Exact :=
  exact_reach hn (Nat.min_le_right _ _) (Nat.min_le_right _ _)

section
variable (h : s.Exact) (hlimit : s.limit < 2 ^ 63)
include h hlimit

theorem Exact.moveBy (delta : Int) (extend : Bool) : (s.moveBy delta extend).Exact := by
  unfold Selection.moveBy
  split
  · exact exact_reach hlimit h.start_le (s.clamp_le _)
  · exact exact_collapse hlimit (s.clamp_le _)

theorem Exact.caret_moveBy (delta : Int) (extend : Bool) :
    (s.moveBy delta extend).caret = s.clamp (s.caret + delta) := by
  have hle := s.clamp_le (s.caret + delta)
  unfold Selection.moveBy
  split
  · exact caret_reach hlimit h.start_le hle
  · exact s.caret_collapse (show s.clamp _ ≤ Offset.top by unfold Offset.top; omega)

theorem Exact.caret_extendTo (nibble : Nat) : (s.extendTo nibble).caret = min nibble s.limit :=
  caret_reach hlimit h.start_le (s.clamp_le _)

theorem Exact.setLength (length : Int) : (s.setLength length).Exact :=
  exact_reach hlimit h.start_le (s.clamp_le _)

theorem Exact.extendTo (nibble : Nat) : (s.extendTo nibble).Exact :=
  exact_reach hlimit h.start_le (s.clamp_le _)

end

/-- The limit is kept, and both ends are within it if they were before. -/
structure Stays (s t : Selection) : Prop where
  limit : t.limit = s.limit
  exact : s.Exact → s.limit < 2 ^ 63 → t.Exact

/-- The limit is `n`, with both ends within it unless it is no signed word. -/
structure EndsAt (s : Selection) (n : Nat) : Prop where
  limit : s.limit = n
  exact : n < 2 ^ 63 → s.Exact

theorem EndsAt.stays (h : s.EndsAt n) (ht : s.Stays t) : t.EndsAt n where
  limit := ht.limit.trans h.limit
  exact hn := ht.exact (h.exact hn) (h.limit ▸ hn)

theorem endsAt_empty (n : Nat) : (empty n).EndsAt n :=
  ⟨rfl, fun _ => ⟨Nat.zero_le _, Nat.zero_le _, rfl⟩⟩

section
variable (s : Selection)

theorem endsAt_setLimit (n : Nat) : (s.setLimit n).EndsAt n :=
  ⟨rfl, s.exact_setLimit⟩

theorem stays_self : s.Stays s :=
  ⟨rfl, fun h _ => h⟩

theorem stays_moveBy (delta : Int) (extend : Bool) : s.Stays (s.moveBy delta extend) :=
  ⟨s.limit_moveBy delta extend, fun h hlimit => h.moveBy hlimit delta extend⟩

theorem stays_setLength (length : Int) : s.Stays (s.setLength length) :=
  ⟨rfl, fun h hlimit => h.setLength hlimit length⟩

theorem stays_extendTo (nibble : Nat) : s.Stays (s.extendTo nibble) :=
  ⟨rfl, fun h hlimit => h.extendTo hlimit nibble⟩

end

theorem stays_setCaret (h : s.setCaret n = .ok t) : s.Stays t := by
  obtain ⟨hn, rfl⟩ := setCaret_ok h
  exact ⟨rfl, fun _ hlimit => exact_collapse hlimit hn⟩

end Selection

end HexEditor
