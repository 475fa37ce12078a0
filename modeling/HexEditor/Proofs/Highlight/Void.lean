import HexEditor.Proofs.Highlight.Edit

/-!
# Highlights without offsets

A range ends at the largest offset at the latest, so a highlight that starts there has no offset to
color, whatever its size. It is stored all the same. `Layers.found_unless_void` says that these are
the only stored highlights that no lookup finds and that clearing a span does not take away, and
which changes leave one behind; `Layers.void_stored` shows one.
-/

namespace HexEditor

/-- A highlight that starts past every offset that can be colored. -/
def Highlight.Void (h : Highlight) : Prop :=
  Offset.top ≤ h.start

section
variable {h : Highlight} {span : ByteRange}

theorem Highlight.start_lt_stop (hsize : 0 < h.size) (hh : ¬ h.Void) : h.start < h.stop := by
  unfold Void Offset.top at hh
  rw [stop_eq]
  omega

theorem Highlight.Void.stop_le (hh : h.Void) (k : Nat) : min k Offset.top ≤ h.start :=
  Nat.le_trans (Nat.min_le_right _ _) hh

theorem Highlight.Void.not_contains (hh : h.Void) : ¬ h.range.Contains o := by
  have hstop : h.stop ≤ h.start := hh.stop_le _
  rw [range_contains]
  omega

theorem Highlight.Void.outside_eq (hh : h.Void) (span : ByteRange) : h.outside span = [h] := by
  have hstop : span.stop ≤ h.start := hh.stop_le _
  exact if_neg fun hmeets => Nat.not_lt.mpr hstop hmeets.1

end

-- ---------------------------------------------------------------------------
-- One layer
-- ---------------------------------------------------------------------------

namespace KeyedLayer.Matches

variable {k : KeyedLayer} {l : Layer} {h : Highlight} {span : ByteRange}

theorem found_iff (hk : k.Matches l) (hh : h ∈ l.highlights) :
    (∃ o < 2 ^ 64, l.find? o = some h) ↔ ¬ h.Void := by
  simp only [Layer.find?_eq_some_iff hk.ordered]
  constructor
  · rintro ⟨o, -, -, ho⟩ hvoid
    exact hvoid.not_contains ho
  · intro hvoid
    have hstop := Highlight.start_lt_stop (hk.sized h hh) hvoid
    have hstart : h.start < 2 ^ 64 := Nat.lt_trans (Nat.lt_of_not_le hvoid) (by decide)
    exact ⟨h.start, hstart, hh, Nat.le_refl _, hstop⟩

theorem mem_erase_iff (hk : k.Matches l) (hh : h ∈ l.highlights) (hspan : ¬ span.IsEmpty)
    (hcovers : span.Includes h.range) :
    h ∈ (l.erase span).highlights ↔ h.Void := by
  constructor
  · intro hleft
    by_contra hvoid
    have hstop := Highlight.start_lt_stop (hk.sized h hh) hvoid
    have hbefore : span.offset ≤ h.start := hcovers.1
    have hafter : h.stop ≤ span.stop := hcovers.2
    rcases Layer.mem_erase hspan hleft with hapart | hapart <;> omega
  · intro hvoid
    rw [Layer.erase, if_neg hspan]
    exact List.mem_flatMap.mpr ⟨h, hh, by simp [hvoid.outside_eq]⟩

theorem find?_erase (hk : k.Matches l) (hcovers : span.Includes h.range) (ho : h.range.Contains o) :
    (l.erase span).find? o = none := by
  have hin : span.Contains o := ⟨Nat.le_trans hcovers.1 ho.1, Nat.lt_of_lt_of_le ho.2 hcovers.2⟩
  have hpaint := Layer.paint_erase hk.ordered span o
  rw [if_pos hin] at hpaint
  exact Option.map_eq_none_iff.mp hpaint

end KeyedLayer.Matches

def Layer.HasVoid (l : Layer) : Prop :=
  ∃ h ∈ l.highlights, h.Void

namespace Layer

variable {l : Layer} {h : Highlight}

theorem not_hasVoid_empty : ¬ HasVoid ⟨[]⟩ := by
  simp [HasVoid]

theorem hasVoid_erase (l : Layer) (span : ByteRange) : (l.erase span).HasVoid ↔ l.HasVoid := by
  unfold erase
  split
  · rfl
  · simp only [HasVoid, List.mem_flatMap]
    constructor
    · rintro ⟨x, ⟨h, hh, hx⟩, hvoid⟩
      obtain ⟨-, -, hstart, -⟩ := Highlight.mem_outside hx
      have htop : h.stop ≤ Offset.top := Nat.min_le_right _ _
      have hx : Offset.top ≤ x.start := hvoid
      exact ⟨h, hh, show Offset.top ≤ h.start by omega⟩
    · rintro ⟨h, hh, hvoid⟩
      exact ⟨h, ⟨h, hh, by simp [hvoid.outside_eq]⟩, hvoid⟩

theorem hasVoid_insert (hl : l.Ordered) (h : Highlight) :
    (l.insert h).HasVoid ↔ (0 < h.size ∧ h.Void) ∨ l.HasVoid := by
  by_cases hsize : h.size = 0
  · simp [insert, hsize]
  · rw [← hasVoid_erase l h.range]
    simp only [HasVoid, mem_insert_iff hl hsize, Nat.pos_of_ne_zero hsize, true_and]
    constructor
    · rintro ⟨x, rfl | ⟨hx, -⟩, hvoid⟩
      · exact .inl hvoid
      · exact .inr ⟨x, hx, hvoid⟩
    · rintro (hvoid | ⟨x, hx, hvoid⟩)
      · exact ⟨h, .inl rfl, hvoid⟩
      · by_cases hsame : x.start = h.start
        · exact ⟨h, .inl rfl, show Offset.top ≤ h.start from hsame ▸ hvoid⟩
        · exact ⟨x, .inr ⟨hx, hsame⟩, hvoid⟩

end Layer

-- ---------------------------------------------------------------------------
-- Several layers
-- ---------------------------------------------------------------------------

namespace Layers

variable {ls : Layers} {i : Nat}

def HasVoidIn (ls : Layers) (i : Nat) : Prop :=
  ∃ l, ls.layers[i]? = some l ∧ l.HasVoid

theorem hasVoidIn_modify (ls : Layers) (j : Nat) (f : Layer → Layer) (i : Nat) :
    HasVoidIn ⟨ls.layers.modify j f⟩ i ↔
      if j = i then ∃ l, ls.layers[i]? = some l ∧ (f l).HasVoid else ls.HasVoidIn i := by
  simp only [HasVoidIn, List.getElem?_modify, Option.map_eq_map, Option.map_eq_some_iff]
  split <;> simp

theorem hasVoidIn_add (hls : ∀ l ∈ ls.layers, l.Ordered) (j : Nat) (h : Highlight) :
    (ls.change (.add j h)).HasVoidIn i ↔ (j = i ∧ i < ls.count ∧ 0 < h.size ∧ h.Void) ∨
    ls.HasVoidIn i := by
  rw [change, add, accept_modify, hasVoidIn_modify]
  by_cases hj : j = i
  · have hin : (∃ l, ls.layers[i]? = some l) ↔ i < ls.count := by
      simp [count, List.getElem?_eq_some_iff]
    have hsplit : (∃ l, ls.layers[i]? = some l ∧ (l.insert h).HasVoid) ↔
        ∃ l, ls.layers[i]? = some l ∧ ((0 < h.size ∧ h.Void) ∨ l.HasVoid) :=
      exists_congr fun l => and_congr_right fun hl =>
        Layer.hasVoid_insert (hls l (List.mem_of_getElem? hl)) h
    simp [hj, hsplit, and_or_left, exists_or, hin, HasVoidIn]
  · simp [hj]

theorem hasVoidIn_remove (j : Nat) (span : ByteRange) :
    (ls.change (.remove j span)).HasVoidIn i ↔ ls.HasVoidIn i := by
  rw [change, remove]
  split
  · rfl
  · rw [accept_modify, hasVoidIn_modify]
    simp only [Layer.hasVoid_erase]
    split <;> rfl

theorem hasVoidIn_clear (layer : Option Nat) :
    (ls.change (.clear layer)).HasVoidIn i ↔ ls.HasVoidIn i ∧ layer ≠ some i ∧ layer ≠ none := by
  cases layer with
  | some j =>
    rw [change, clear, accept_modify, hasVoidIn_modify]
    by_cases hj : j = i <;> simp [hj, Layer.not_hasVoid_empty]
  | none =>
    simp only [change, clear, accept, HasVoidIn, List.getElem?_map, Option.map_eq_some_iff]
    refine iff_of_false ?_ (by simp)
    rintro ⟨-, ⟨-, -, rfl⟩, hvoid⟩
    exact Layer.not_hasVoid_empty hvoid

theorem hasVoidIn_push : (ls.change .push).HasVoidIn i ↔ ls.HasVoidIn i := by
  simp only [change, push, HasVoidIn, List.getElem?_append]
  split
  · rfl
  · rename_i hi
    have hnone : ls.layers[i]? = none := List.getElem?_eq_none (Nat.not_lt.mp hi)
    cases hlast : i - ls.layers.length with
    | zero => simp [hnone, Layer.not_hasVoid_empty]
    | succ n => simp [hnone]

/-- A layer has a highlight without offsets if the last change brought one to it, or if it had one
that the change did not clear away. -/
theorem hasVoidIn_change (hls : ∀ l ∈ ls.layers, l.Ordered) (c : Change) (i : Nat) :
    (ls.change c).HasVoidIn i ↔
      (∃ h, c = .add i h ∧ i < ls.count ∧ 0 < h.size ∧ h.Void) ∨
      (ls.HasVoidIn i ∧ c ≠ .clear (some i) ∧ c ≠ .clear none) := by
  cases c with
  | add j h => simp [hasVoidIn_add hls, and_assoc]
  | remove j span => simp [hasVoidIn_remove]
  | clear layer => simp [hasVoidIn_clear]
  | push => simp [hasVoidIn_push]

theorem hasVoidIn_changes (hls : ∀ l ∈ ls.layers, l.Ordered) (cs : List Change) (i : Nat) :
    (cs.foldl Layers.change ls).HasVoidIn i ↔
      (ls.HasVoidIn i ∧ ∀ c ∈ cs, c ≠ .clear (some i) ∧ c ≠ .clear none) ∨
        ∃ before h after, cs = before ++ .add i h :: after ∧ 0 < h.size ∧ h.Void ∧
          i < (before.foldl Layers.change ls).count ∧
          ∀ c ∈ after, c ≠ .clear (some i) ∧ c ≠ .clear none := by
  induction cs generalizing ls with
  | nil => simp
  | cons c cs ih =>
    have hordered : ∀ l ∈ (ls.change c).layers, l.Ordered := (Shows.change ⟨hls, rfl⟩ c).ordered
    rw [List.foldl_cons, ih hordered, hasVoidIn_change hls, List.forall_mem_cons]
    constructor
    · rintro (⟨⟨h, rfl, hi, hsize, hvoid⟩ | ⟨hhas, hc⟩, hcs⟩ | ⟨before, h, after, rfl, hsize, hvoid,
        hi, hafter⟩)
      · exact .inr ⟨[], h, cs, rfl, hsize, hvoid, hi, hcs⟩
      · exact .inl ⟨hhas, hc, hcs⟩
      · exact .inr ⟨c :: before, h, after, rfl, hsize, hvoid, hi, hafter⟩
    · rintro (⟨hhas, hc, hcs⟩ | ⟨before, h, after, hsplit, hsize, hvoid, hi, hafter⟩)
      · exact .inl ⟨.inr ⟨hhas, hc⟩, hcs⟩
      · cases before with
        | nil =>
          obtain ⟨rfl, rfl⟩ := List.cons.inj hsplit
          exact .inl ⟨.inl ⟨h, rfl, hi, hsize, hvoid⟩, hafter⟩
        | cons first before =>
          obtain ⟨rfl, rfl⟩ := List.cons.inj hsplit
          exact .inr ⟨before, h, after, rfl, hsize, hvoid, hi, hafter⟩

theorem isEmpty_iff (hstored : ∀ l ∈ ls.layers, ∃ k, KeyedLayer.Matches k l) :
    ls.IsEmpty ↔ (∀ o < 2 ^ 64, ls.find? o = none) ∧ ∀ l ∈ ls.layers, ∀ h ∈ l.highlights,
      ¬ h.Void := by
  simp only [find?, List.findSome?_eq_none_iff]
  constructor
  · intro hempty
    constructor
    · intro o _ l hl
      simp [Layer.find?, hempty l hl]
    · intro l hl h hh
      simp [hempty l hl] at hh
  · rintro ⟨hfind, hvoid⟩ l hl
    obtain ⟨k, hk⟩ := hstored l hl
    refine List.eq_nil_iff_forall_not_mem.mpr fun h hh => ?_
    obtain ⟨o, ho, hfound⟩ := (hk.found_iff hh).mpr (hvoid l hl h hh)
    cases hfound.symm.trans (hfind o ho l hl)

/-- After any changes to new layers: they are empty exactly if no lookup finds a highlight and none
starts at the largest offset. A stored highlight is found in its layer at some offset, and cleared
away with any span that covers it, unless it starts there; and a layer has one that does exactly if
one with a size was added to it and the layer has not been cleared since. -/
theorem found_unless_void (n : Nat) (changes : List Change) :
    let ls := changes.foldl Layers.change (.ofCount n)
    (ls.IsEmpty ↔ (∀ o < 2 ^ 64, ls.find? o = none) ∧ ∀ l ∈ ls.layers, ∀ h ∈ l.highlights,
      h.start < 2 ^ 64 - 1) ∧
    (∀ i l, ls.layers[i]? = some l → ∀ h ∈ l.highlights,
      ((∃ o < 2 ^ 64, l.find? o = some h) ↔ h.start < 2 ^ 64 - 1) ∧
      ∀ span : ByteRange, ¬ span.IsEmpty → span.Includes h.range →
        ∃ ls' l', ls.remove i span = .ok ls' ∧ ls'.layers[i]? = some l' ∧
          (h ∉ l'.highlights ↔ h.start < 2 ^ 64 - 1) ∧ ∀ o, h.range.Contains o →
          l'.find? o = none) ∧
    ∀ i, (∃ l, ls.layers[i]? = some l ∧ ∃ h ∈ l.highlights, 2 ^ 64 - 1 ≤ h.start) ↔
      ∃ before h after, changes = before ++ .add i h :: after ∧ 0 < h.size ∧ 2 ^ 64 - 1 ≤ h.start ∧
        i < (before.foldl Layers.change (.ofCount n)).count ∧ ∀ c ∈ after, c ≠ .clear (some i) ∧
          c ≠ .clear none := by
  intro ls
  have hstored : ∀ l ∈ ls.layers, ∃ k, KeyedLayer.Matches k l :=
    fun l hl => KeyedLayer.exists_matches (KeyedLayer.matches_run n changes) hl
  have hvoid (h : Highlight) : h.start < 2 ^ 64 - 1 ↔ ¬ h.Void := Nat.not_le.symm
  refine ⟨?_, ?_, ?_⟩
  · simp only [hvoid]
    exact isEmpty_iff hstored
  · intro i l hl h hh
    obtain ⟨k, hk⟩ := hstored l (List.mem_of_getElem? hl)
    rw [hvoid]
    refine ⟨hk.found_iff hh, fun span hspan hcovers => ?_⟩
    obtain ⟨hi, -⟩ := List.getElem?_eq_some_iff.mp hl
    refine ⟨⟨ls.layers.modify i (·.erase span)⟩, l.erase span, ?_, ?_,
      not_congr (hk.mem_erase_iff hh hspan hcovers),
      fun o => hk.find?_erase hcovers⟩
    · rw [remove, if_neg hspan]
      exact modify_ok.mpr ⟨hi, rfl⟩
    · simp [hl]
  · intro i
    have hnew : ∀ l ∈ (ofCount n).layers, l.Ordered := (shows_ofCount n).ordered
    have hnone : ¬ (ofCount n).HasVoidIn i := by
      rintro ⟨l, hl, hvoid⟩
      rw [List.eq_of_mem_replicate (List.mem_of_getElem? hl)] at hvoid
      exact Layer.not_hasVoid_empty hvoid
    exact (hasVoidIn_changes hnew changes i).trans (or_iff_right fun h => hnone h.1)

/-- One byte colored at the largest offset: nothing is found, neither the span itself nor all the
others clear it away, and the layers are not empty. -/
theorem void_stored :
    let last : Highlight := ⟨2 ^ 64 - 1, 1, some ⟨255, 0, 0, 255⟩, none⟩
    let ls : Layers := [Change.add 0 last].foldl Layers.change (.ofCount 1)
    ¬ ls.IsEmpty ∧ (∀ o, ls.find? o = none) ∧ ls.remove 0 last.range = .ok ls ∧
      ls.remove 0 ⟨0, 2 ^ 64 - 1⟩ = .ok ls := by
  intro last ls
  refine ⟨by decide, fun o => ?_, rfl, rfl⟩
  have hvoid : last.Void := Nat.le_refl _
  have hlayer : Layer.find? ⟨[last]⟩ o = none := by
    refine Option.eq_none_iff_forall_ne_some.mpr fun h hfound => ?_
    obtain ⟨hh, ho⟩ := (Layer.find?_eq_some_iff (List.pairwise_singleton _ _)).mp hfound
    rw [List.mem_singleton.mp hh] at ho
    exact hvoid.not_contains ho
  change [(⟨[last]⟩ : Layer)].findSome? (·.find? o) = none
  simp [hlayer]

end Layers

end HexEditor
