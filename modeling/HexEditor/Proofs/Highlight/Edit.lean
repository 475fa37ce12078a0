import HexEditor.Proofs.Highlight.Keyed

/-!
# Edits of a layer in either order

A host colors a span of a layer or clears one. What a layer stores is known by its members, since
they are in order: those that lie outside the span, what is left of those that reach into it, and
the new highlight. So two edits whose spans share no offset do not get into each other's way, also
where both cut the same highlight: `Layers.edit_comm` says that they store the same in either order,
start by start and size by size.
-/

namespace HexEditor

def ByteRange.Disjoint (r s : ByteRange) : Prop :=
  ∀ o, ¬ (r.Contains o ∧ s.Contains o)

structure ByteRange.Proper (r : ByteRange) : Prop where
  pos : 0 < r.length
  le_top : r.offset + r.length ≤ Offset.top

section
variable {r s : ByteRange}

theorem ByteRange.not_isEmpty_of_lt (h : r.offset < r.stop) : ¬ r.IsEmpty :=
  fun hempty => hempty.not_contains ⟨Nat.le_refl _, h⟩

theorem ByteRange.Disjoint.symm (h : r.Disjoint s) : s.Disjoint r :=
  fun o ho => h o ho.symm

theorem ByteRange.Proper.stop_eq (h : r.Proper) : r.stop = r.offset + r.length :=
  Nat.min_eq_left h.le_top

theorem ByteRange.Proper.not_isEmpty (h : r.Proper) : ¬ r.IsEmpty :=
  Nat.ne_of_gt h.pos

theorem ByteRange.Proper.offset_lt_stop (h : r.Proper) : r.offset < r.stop := by
  rw [h.stop_eq]
  exact Nat.lt_add_of_pos_right h.pos

theorem ByteRange.Disjoint.apart (h : r.Disjoint s) (hr : r.Proper) (hs : s.Proper) :
    r.stop ≤ s.offset ∨ s.stop ≤ r.offset := by
  have hshared := h (max r.offset s.offset)
  have hpos := hr.pos
  have hpos' := hs.pos
  rw [Contains, Contains, hr.stop_eq, hs.stop_eq] at hshared
  rw [hr.stop_eq, hs.stop_eq]
  omega

end

-- ---------------------------------------------------------------------------
-- Pieces of a highlight
-- ---------------------------------------------------------------------------

namespace Highlight

/-- The part of a highlight from one offset up to another, if there is any. -/
def piece (h : Highlight) (start stop : Nat) : List Highlight :=
  if start < stop then [{ h with start, size := stop - start }] else []

variable {h : Highlight} {r s span : ByteRange}

theorem stop_le_top (h : Highlight) : h.stop ≤ Offset.top :=
  Nat.min_le_right _ _

theorem outside_of_meets (hmeets : h.start < span.stop ∧ span.offset < h.stop) :
    h.outside span = h.piece h.start span.offset ++ h.piece span.stop h.stop :=
  if_pos hmeets

theorem outside_of_apart (hapart : h.stop ≤ span.offset ∨ span.stop ≤ h.start) :
    h.outside span = [h] :=
  if_neg (by omega)

theorem outside_flatMap_of_apart (hapart : h.stop ≤ s.offset ∨ s.stop ≤ h.start) :
    (h.outside r).flatMap (·.outside s) = h.outside r := by
  have hwhole : ∀ x ∈ h.outside r, x.outside s = [x] := by
    intro x hx
    obtain ⟨-, hstart, -, hstop, -⟩ := mem_outside hx
    exact outside_of_apart (by omega)
  rw [List.flatMap_congr hwhole, List.flatMap_singleton']

theorem piece_outside_of_apart (htop : b ≤ Offset.top) (hapart : b ≤ s.offset ∨ s.stop ≤ a) :
    (h.piece a b).flatMap (·.outside s) = h.piece a b := by
  unfold piece
  split
  · have hstop : ({ h with start := a, size := b - a } : Highlight).stop = b := by
      rw [stop_eq]
      unfold Offset.top at htop
      simp only
      omega
    rw [List.flatMap_singleton, outside_of_apart (by rw [hstop]; exact hapart)]
  · rfl

theorem piece_outside_of_meets (htop : b ≤ Offset.top) (hab : a < b)
    (hmeets : a < s.stop ∧ s.offset < b) :
    (h.piece a b).flatMap (·.outside s) = h.piece a s.offset ++ h.piece s.stop b := by
  have hstop : ({ h with start := a, size := b - a } : Highlight).stop = b := by
    rw [stop_eq]
    unfold Offset.top at htop
    simp only
    omega
  rw [piece, if_pos hab, List.flatMap_singleton, outside_of_meets (by rw [hstop]; exact hmeets),
    hstop]
  rfl

theorem outside_outside (hr : r.Proper) (hs : s.Proper) (hrs : r.stop ≤ s.offset)
    (hstart : h.start < r.stop) (hstop : s.offset < h.stop) :
    (h.outside r).flatMap (·.outside s) =
    h.piece h.start r.offset ++ (h.piece r.stop s.offset ++ h.piece s.stop h.stop) ∧
      (h.outside s).flatMap (·.outside r) =
      h.piece h.start r.offset ++ (h.piece r.stop s.offset ++ h.piece s.stop h.stop) := by
  have htop := h.stop_le_top
  have hr' := hr.stop_eq
  have hs' := hs.stop_eq
  have hpos := hr.pos
  have hpos' := hs.pos
  constructor
  · rw [outside_of_meets (by omega), List.flatMap_append,
      piece_outside_of_apart (by omega) (by omega),
      piece_outside_of_meets htop (by omega) (by omega)]
  · rw [outside_of_meets (by omega), List.flatMap_append,
      piece_outside_of_meets (by omega) (by omega) (by omega),
      piece_outside_of_apart htop (by omega), List.append_assoc]

theorem outside_comm (hr : r.Proper) (hs : s.Proper) (hrs : r.Disjoint s) (h : Highlight) :
    (h.outside r).flatMap (·.outside s) = (h.outside s).flatMap (·.outside r) := by
  by_cases hmissed : h.stop ≤ r.offset ∨ r.stop ≤ h.start
  · rw [outside_flatMap_of_apart hmissed, outside_of_apart hmissed, List.flatMap_singleton]
  by_cases hmissed' : h.stop ≤ s.offset ∨ s.stop ≤ h.start
  · rw [outside_flatMap_of_apart hmissed', outside_of_apart hmissed', List.flatMap_singleton]
  · rcases hrs.apart hr hs with hbefore | hafter
    · obtain ⟨hleft, hright⟩ := outside_outside (h := h) hr hs hbefore (by omega) (by omega)
      rw [hleft, hright]
    · obtain ⟨hleft, hright⟩ := outside_outside (h := h) hs hr hafter (by omega) (by omega)
      rw [hleft, hright]

end Highlight

-- ---------------------------------------------------------------------------
-- Members of a layer
-- ---------------------------------------------------------------------------

namespace Layer

variable {l l' : Layer} {h k x : Highlight} {r s span : ByteRange}

theorem Ordered.ext (hl : l.Ordered) (hl' : l'.Ordered)
    (hmem : ∀ x, x ∈ l.highlights ↔ x ∈ l'.highlights) : l = l' := by
  have hperm : l.highlights.Perm l'.highlights :=
    (List.perm_ext_iff_of_nodup (Highlight.nodup_of_before hl)
      (Highlight.nodup_of_before hl')).mpr hmem
  have hsame : l.highlights = l'.highlights :=
    hperm.eq_of_pairwise (fun _ _ _ _ hab hba => absurd hab.1 (Nat.lt_asymm hba.1)) hl hl'
  cases l
  cases l'
  exact congrArg Layer.mk hsame

theorem highlights_erase (hspan : ¬ span.IsEmpty) :
    (l.erase span).highlights = l.highlights.flatMap (·.outside span) := by
  rw [erase, if_neg hspan]

theorem erase_comm (hr : r.Proper) (hs : s.Proper) (hrs : r.Disjoint s) (l : Layer) :
    (l.erase r).erase s = (l.erase s).erase r := by
  have hboth {r s : ByteRange} (hr : r.Proper) (hs : s.Proper) :
      ((l.erase r).erase s).highlights = l.highlights.flatMap fun h =>
        (h.outside r).flatMap (·.outside s) := by
    rw [highlights_erase hs.not_isEmpty, highlights_erase hr.not_isEmpty, List.flatMap_assoc]
  have hsame : ((l.erase r).erase s).highlights = ((l.erase s).erase r).highlights := by
    rw [hboth hr hs, hboth hs hr]
    exact List.flatMap_congr fun h _ => Highlight.outside_comm hr hs hrs h
  exact congrArg Layer.mk hsame

end Layer

namespace KeyedLayer.Matches

variable {k : KeyedLayer} {l : Layer} {g h x : Highlight} {s : ByteRange}

/-- What is left of the others does not start where the new highlight does, if that one has an
offset to color. -/
theorem mem_insert_of_lt (hk : k.Matches l) (hh : h.start < h.stop) :
    x ∈ (l.insert h).highlights ↔ x = h ∨ x ∈ (l.erase h.range).highlights := by
  have hsize : ¬ h.range.IsEmpty := ByteRange.not_isEmpty_of_lt hh
  rw [Layer.mem_insert_iff hk.ordered hsize]
  refine or_congr_right (and_iff_left_of_imp fun hx heq => ?_)
  have hapart := Layer.apart_of_mem_erase hsize hx
  have hpos := hk.sized_erase h.range x hx
  simp only [Highlight.stop_eq] at hapart hh
  omega

theorem mem_insert (hk : k.Matches l) (hh : h.range.Proper) :
    x ∈ (l.insert h).highlights ↔ x = h ∨ x ∈ (l.erase h.range).highlights :=
  hk.mem_insert_of_lt hh.offset_lt_stop

theorem mem_erase_insert (hk : k.Matches l) (hh : h.range.Proper) (hs : s.Proper)
    (hhs : h.range.Disjoint s) :
    x ∈ ((l.insert h).erase s).highlights ↔ x = h ∨ x ∈ ((l.erase h.range).erase s).highlights := by
  have hwhole : h.outside s = [h] := Highlight.outside_of_apart (hhs.apart hh hs)
  simp only [Layer.highlights_erase hs.not_isEmpty, List.mem_flatMap, hk.mem_insert hh,
    or_and_right, exists_or, exists_eq_left,
    hwhole, List.mem_singleton]

theorem insert_erase_comm (hk : k.Matches l) (hh : h.range.Proper) (hs : s.Proper)
    (hhs : h.range.Disjoint s) :
    (l.insert h).erase s = (l.erase s).insert h := by
  refine Layer.Ordered.ext ((hk.ordered.insert h).erase s)
    ((hk.ordered.erase s).insert h) fun x => ?_
  rw [hk.mem_erase_insert hh hs hhs, (hk.erase s).mem_insert hh, Layer.erase_comm hh hs hhs]

theorem insert_insert_comm (hk : k.Matches l) (hg : g.range.Proper) (hh : h.range.Proper)
    (hgh : g.range.Disjoint h.range) :
    (l.insert g).insert h = (l.insert h).insert g := by
  refine Layer.Ordered.ext ((hk.ordered.insert g).insert h)
    ((hk.ordered.insert h).insert g) fun x => ?_
  rw [(hk.insert g).mem_insert hh, (hk.insert h).mem_insert hg, hk.mem_erase_insert hg hh hgh,
    hk.mem_erase_insert hh hg hgh.symm, Layer.erase_comm hg hh hgh, or_left_comm]

end KeyedLayer.Matches

-- ---------------------------------------------------------------------------
-- Edits
-- ---------------------------------------------------------------------------

inductive Layer.Edit
  | insert (h : Highlight)
  | erase (span : ByteRange)
deriving DecidableEq, Repr

namespace Layer.Edit

def span : Edit → ByteRange
  | insert h => h.range
  | erase span => span

def apply (l : Layer) : Edit → Layer
  | insert h => l.insert h
  | erase span => l.erase span

/-- The edit of one of several layers, as a change of all of them. -/
def on (layer : Nat) : Edit → Layers.Change
  | insert h => .add layer h
  | erase span => .remove layer span

def Accepted : Edit → Prop
  | insert _ => True
  | erase span => ¬ span.IsEmpty

variable {e f : Edit} {k : KeyedLayer} {l : Layer}

theorem apply_of_isEmpty (he : e.span.IsEmpty) (l : Layer) : e.apply l = l := by
  cases e with
  | insert h => exact if_pos he
  | erase span => exact if_pos he

theorem apply_comm (hk : k.Matches l) (he : e.span.offset + e.span.length ≤ Offset.top)
    (hf : f.span.offset + f.span.length ≤ Offset.top) (hdisjoint : e.span.Disjoint f.span) :
    f.apply (e.apply l) = e.apply (f.apply l) := by
  by_cases hempty : e.span.IsEmpty
  · rw [apply_of_isEmpty hempty, apply_of_isEmpty hempty]
  by_cases hempty' : f.span.IsEmpty
  · rw [apply_of_isEmpty hempty', apply_of_isEmpty hempty']
  have he : e.span.Proper := ⟨Nat.pos_of_ne_zero hempty, he⟩
  have hf : f.span.Proper := ⟨Nat.pos_of_ne_zero hempty', hf⟩
  cases e with
  | insert g =>
    cases f with
    | insert h => exact hk.insert_insert_comm he hf hdisjoint
    | erase s => exact hk.insert_erase_comm he hf hdisjoint
  | erase r =>
    cases f with
    | insert h => exact (hk.insert_erase_comm hf he hdisjoint.symm).symm
    | erase s => exact Layer.erase_comm he hf hdisjoint l

end Layer.Edit

namespace Layers

variable {ls ls' : Layers} {e f : Layer.Edit} {i j : Nat}

def edit (ls : Layers) (layer : Nat) : Layer.Edit → Except Error Layers
  | .insert h => ls.add layer h
  | .erase span => ls.remove layer span

theorem modify_ok : ls.modify i g = .ok ls' ↔ i < ls.count ∧ ls' = ⟨ls.layers.modify i g⟩ := by
  unfold modify
  split
  · simp [*, eq_comm]
  · simp [*]

theorem edit_ok :
    ls.edit i e = .ok ls' ↔ i < ls.count ∧ e.Accepted ∧ ls' = ⟨ls.layers.modify i e.apply⟩ := by
  cases e with
  | insert h =>
    change ls.modify i _ = .ok ls' ↔ _
    rw [modify_ok]
    simp only [Layer.Edit.Accepted, true_and]
    rfl
  | erase span =>
    change ls.remove i span = .ok ls' ↔ _
    by_cases hspan : span.IsEmpty
    · simp [remove, hspan, Layer.Edit.Accepted]
    · rw [remove, if_neg hspan, modify_ok]
      simp only [Layer.Edit.Accepted, hspan, not_false_eq_true, true_and]
      rfl

theorem change_on (ls : Layers) (i : Nat) (e : Layer.Edit) :
    ls.change (e.on i) = ls.accept (ls.edit i e) := by
  cases e with
  | insert h => rfl
  | erase span => rfl

theorem change_of_edit (h : ls.edit i e = .ok ls') : ls.change (e.on i) = ls' := by
  rw [change_on, h]
  rfl

theorem count_edit (h : ls.edit i e = .ok ls') : ls'.count = ls.count := by
  obtain ⟨-, -, rfl⟩ := edit_ok.mp h
  exact List.length_modify _ _ _

end Layers

namespace KeyedLayer

variable {ks : List KeyedLayer} {ls : Layers}

theorem exists_matches {layers : List Layer} (h : ks.Forall₂ Matches layers) (hl : l ∈ layers) :
    ∃ k, Matches k l := by
  induction h with
  | nil => cases hl
  | @cons k l' _ _ hk _ ih =>
    rcases List.mem_cons.mp hl with rfl | hl
    · exact ⟨k, hk⟩
    · exact ih hl

theorem toList_eq_of_matches (h : ks.Forall₂ Matches ls.layers) :
    ks.map (·.entries.toList) = ls.layers.map fun l => l.highlights.map fun h => (h.start, h) := by
  generalize ls.layers = layers at h
  induction h with
  | nil => rfl
  | cons hk _ ih => rw [List.map_cons, List.map_cons, hk.holds.toList_eq hk.ordered, ih]

end KeyedLayer

namespace Layers

variable {ls first second : Layers} {ks : List KeyedLayer} {e f : Layer.Edit} {i j : Nat}

theorem modify_comm (h : ks.Forall₂ KeyedLayer.Matches ls.layers)
    (he : e.span.offset + e.span.length ≤ Offset.top)
    (hf : f.span.offset + f.span.length ≤ Offset.top) (hapart : i ≠ j ∨ e.span.Disjoint f.span) :
    (ls.layers.modify i e.apply).modify j f.apply =
    (ls.layers.modify j f.apply).modify i e.apply := by
  by_cases hij : i = j
  · subst hij
    have hdisjoint := hapart.resolve_left (not_not_intro rfl)
    apply List.ext_getElem?
    intro n
    rw [List.modify_modify_eq, List.modify_modify_eq, List.getElem?_modify, List.getElem?_modify]
    cases hn : ls.layers[n]? with
    | none => rfl
    | some l =>
      obtain ⟨k, hk⟩ := KeyedLayer.exists_matches h (List.mem_of_getElem? hn)
      have hsame := Layer.Edit.apply_comm hk he hf hdisjoint
      simp only [Option.map_eq_map, Option.map_some, Function.comp_apply, hsame]
  · exact List.modify_modify_ne _ _ _ hij

/-- Two edits that are accepted, of different layers or of disjoint spans of one layer, are accepted
one after the other as well, and store the same in either order: the layers are equal, and their
trees have the same entries. -/
theorem edit_comm (n : Nat) (changes : List Change)
    (hls : ls = changes.foldl Layers.change (.ofCount n))
    (hks : ks = changes.foldl KeyedLayer.change (List.replicate n {}))
    (he : e.span.offset + e.span.length ≤ 2 ^ 64 - 1)
    (hf : f.span.offset + f.span.length ≤ 2 ^ 64 - 1) (hapart : i ≠ j ∨ e.span.Disjoint f.span)
    (hfirst : ls.edit i e = .ok first) (hsecond : ls.edit j f = .ok second) :
    ∃ both, first.edit j f = .ok both ∧ second.edit i e = .ok both ∧
      (KeyedLayer.change (KeyedLayer.change ks (e.on i)) (f.on j)).map (·.entries.toList) =
        both.layers.map (fun l => l.highlights.map fun h => (h.start, h)) ∧
      (KeyedLayer.change (KeyedLayer.change ks (f.on j)) (e.on i)).map (·.entries.toList) =
        both.layers.map (fun l => l.highlights.map fun h => (h.start, h)) := by
  have hmatches : ks.Forall₂ KeyedLayer.Matches ls.layers :=
    hls ▸ hks ▸ KeyedLayer.matches_run n changes
  obtain ⟨hi, heaccepted, hfirst'⟩ := edit_ok.mp hfirst
  obtain ⟨hj, hfaccepted, hsecond'⟩ := edit_ok.mp hsecond
  have hlast : first.edit j f = .ok ⟨first.layers.modify j f.apply⟩ :=
    edit_ok.mpr ⟨by rwa [count_edit hfirst], hfaccepted, rfl⟩
  have hcomm := modify_comm hmatches he hf hapart
  have hlast' : second.edit i e = .ok ⟨first.layers.modify j f.apply⟩ := by
    refine edit_ok.mpr ⟨by rwa [count_edit hsecond], heaccepted, ?_⟩
    rw [hfirst', hsecond']
    exact congrArg Layers.mk hcomm
  have htrees {a b : Layer.Edit} {i j : Nat} {once both : Layers} (ha : ls.edit i a = .ok once)
      (hb : once.edit j b = .ok both) :
      (KeyedLayer.change (KeyedLayer.change ks (a.on i)) (b.on j)).map (·.entries.toList) =
        both.layers.map fun l => l.highlights.map fun h => (h.start, h) := by
    rw [← change_of_edit hb, ← change_of_edit ha]
    exact KeyedLayer.toList_eq_of_matches
      (KeyedLayer.matches_change (KeyedLayer.matches_change hmatches _) _)
  exact ⟨_, hlast, hlast', htrees hfirst hlast, htrees hsecond hlast'⟩

/-- Two adjacent spans in the middle of one highlight, the first of them colored anew and the second
one cleared. -/
theorem edit_comm_adjacent :
    let red : Highlight := ⟨0, 20, some ⟨255, 0, 0, 255⟩, none⟩
    let blue : Highlight := ⟨5, 5, some ⟨0, 0, 255, 255⟩, none⟩
    let ls : Layers := [Change.add 1 red].foldl Layers.change (.ofCount 2)
    ∃ first second both, ls.edit 1 (.insert blue) = .ok first ∧
      ls.edit 1 (.erase ⟨10, 3⟩) = .ok second ∧
      first.edit 1 (.erase ⟨10, 3⟩) = .ok both ∧ second.edit 1 (.insert blue) = .ok both ∧
      both = ⟨[⟨[]⟩, ⟨[{ red with size := 5 }, blue, { red with start := 13, size := 7 }]⟩]⟩ := by
  intro red blue ls
  have hdisjoint : ByteRange.Disjoint ⟨5, 5⟩ ⟨10, 3⟩ := by
    intro o
    unfold ByteRange.Contains ByteRange.stop Offset.add Offset.top
    simp only
    omega
  obtain ⟨both, hboth, hboth', -, -⟩ :=
    edit_comm (e := .insert blue) (f := .erase ⟨10, 3⟩) (i := 1) (j := 1)
    2 [.add 1 red] rfl rfl (by decide) (by decide) (.inr hdisjoint) rfl rfl
  exact ⟨_, _, both, rfl, rfl, hboth, hboth', Except.ok.inj (hboth.symm.trans rfl)⟩

end Layers

end HexEditor
