import HexEditor.Proofs.Highlight.Table
import Mathlib.Algebra.Group.Int.Defs
import Mathlib.Algebra.Group.Nat.Defs
import Mathlib.Data.List.Pairwise
import Mathlib.Data.List.Sort

/-!
# Layers kept by start

The highlights of a layer as the entries of a search tree, each under its start. A span is cleared
in place: from its end back, every highlight that reaches into it is taken out, and what is left of
it is put back; the walk stops at the first highlight that ends before the span.
`Layers.stored_apart` shows that none is overlooked and no entry lost: after any changes the tree
holds the highlights of the layer, which are in order and apart.
-/

namespace HexEditor

structure KeyedLayer where
  entries : Std.TreeMap Nat Highlight := {}

namespace KeyedLayer

def find? (k : KeyedLayer) (offset : Nat) : Option Highlight :=
  (((k.entries.toList.filter (·.1 ≤ offset)).getLast?).map (·.2)).filter (·.range.Contains offset)

def met (k : KeyedLayer) (span : ByteRange) : List Nat :=
  ((k.entries.toList.filter (·.1 < span.stop)).reverse.takeWhile (span.offset < ·.2.stop)).map (·.1)

/-- Take out the highlight of a start, and put back what is left of it before and after a span. -/
def trim (span : ByteRange) (k : KeyedLayer) (start : Nat) : KeyedLayer :=
  match k.entries[start]? with
  | none => k
  | some h =>
    let rest := k.entries.erase start
    let rest :=
      if h.start < span.offset then rest.insert h.start { h with size := span.offset - h.start }
      else rest
    ⟨if span.stop < h.stop then
        rest.insert span.stop { h with start := span.stop, size := h.stop - span.stop }
      else rest⟩

def erase (k : KeyedLayer) (span : ByteRange) : KeyedLayer :=
  if span.IsEmpty then k else (k.met span).foldl (trim span) k

def insert (k : KeyedLayer) (h : Highlight) : KeyedLayer :=
  if h.size = 0 then k else ⟨(k.erase h.range).entries.insert h.start h⟩

/-- The layers after a change; one that names no layer, or an empty span to clear, is rejected. -/
def change (ks : List KeyedLayer) : Layers.Change → List KeyedLayer
  | .add layer h => ks.modify layer (·.insert h)
  | .remove layer span => if span.IsEmpty then ks else ks.modify layer (·.erase span)
  | .clear (some layer) => ks.modify layer fun _ => {}
  | .clear none => ks.map fun _ => {}
  | .push => ks ++ [{}]

def Holds (k : KeyedLayer) (hs : List Highlight) : Prop :=
  ∀ start h, k.entries[start]? = some h ↔ h ∈ hs ∧ h.start = start

variable {k : KeyedLayer} {hs : List Highlight} {g h x : Highlight} {span : ByteRange}
  {todo : List Nat}

theorem holds_empty : KeyedLayer.Holds {} [] := by
  intro start h
  simp

-- ---------------------------------------------------------------------------
-- Highlights that are apart
-- ---------------------------------------------------------------------------

theorem apart_of_mem (hl : hs.Pairwise Highlight.Before) (hg : g ∈ hs) (hh : h ∈ hs) :
    g = h ∨ g.Before h ∨ h.Before g := by
  have : Std.Symm fun a b : Highlight => a.Before b ∨ b.Before a := ⟨fun _ _ hab => hab.symm⟩
  have hall : hs.Pairwise fun a b => a.Before b ∨ b.Before a := hl.imp .inl
  by_cases heq : g = h
  · exact .inl heq
  · exact .inr (hall.forall hg hh heq)

theorem Holds.toList_eq (hk : k.Holds hs) (hl : hs.Pairwise Highlight.Before) :
    k.entries.toList = hs.map fun h => (h.start, h) := by
  have htree : k.entries.toList.Pairwise fun a b => a.1 < b.1 :=
    Std.TreeMap.ordered_keys_toList.imp fun hab => Nat.compare_eq_lt.mp hab
  have hlist : (hs.map fun h => (h.start, h)).Pairwise fun a b => a.1 < b.1 :=
    List.pairwise_map.mpr (hl.imp fun hab => hab.1)
  refine List.Perm.eq_of_pairwise
    (fun a b _ _ hab hba => absurd hab (Nat.lt_asymm hba)) htree hlist ?_
  have hnodup {entries : List (Nat × Highlight)}
      (hentries : entries.Pairwise fun a b => a.1 < b.1) : entries.Nodup :=
    hentries.imp fun hab heq => Nat.ne_of_lt hab (congrArg Prod.fst heq)
  rw [List.perm_ext_iff_of_nodup (hnodup htree) (hnodup hlist)]
  rintro ⟨start, h⟩
  rw [Std.TreeMap.mem_toList_iff_getElem?_eq_some, hk start h, List.mem_map]
  constructor
  · rintro ⟨hh, rfl⟩
    exact ⟨h, hh, rfl⟩
  · rintro ⟨h, hh, heq⟩
    cases heq
    exact ⟨hh, rfl⟩

-- ---------------------------------------------------------------------------
-- Clearing a span
-- ---------------------------------------------------------------------------

/-- A highlight while a span is being cleared: whole as long as its start is still on the list. -/
def part (span : ByteRange) (todo : List Nat) (h : Highlight) : List Highlight :=
  if h.start ∈ todo then [h] else h.outside span

theorem mem_part (hx : x ∈ part span todo h) :
    h.start ≤ x.start ∧ (x.start = h.start ∨ x.start < h.stop) := by
  unfold part at hx
  split at hx
  · cases List.mem_singleton.mp hx
    exact ⟨Nat.le_refl _, .inl rfl⟩
  · obtain ⟨-, hle, hstart, -⟩ := Highlight.mem_outside hx
    exact ⟨hle, hstart⟩

theorem mem_parts_iff (hl : hs.Pairwise Highlight.Before) (hg : g ∈ hs) (todo : List Nat) :
    x ∈ hs.flatMap (part span todo) ↔
      x ∈ part span todo g ∨ ∃ h ∈ hs, (g.Before h ∨ h.Before g) ∧ x ∈ part span todo h := by
  rw [List.mem_flatMap]
  constructor
  · rintro ⟨h, hh, hx⟩
    rcases apart_of_mem hl hg hh with rfl | hapart
    · exact .inl hx
    · exact .inr ⟨h, hh, hapart, hx⟩
  · rintro (hx | ⟨h, hh, -, hx⟩)
    · exact ⟨g, hg, hx⟩
    · exact ⟨h, hh, hx⟩

theorem part_cons_of_apart (hapart : g.Before h ∨ h.Before g) :
    part span (g.start :: todo) h = part span todo h := by
  have hne : h.start ≠ g.start := by
    rintro heq
    rcases hapart with hbefore | hbefore
    · exact Nat.lt_irrefl _ (heq ▸ hbefore.1)
    · exact Nat.lt_irrefl _ (heq ▸ hbefore.1)
  simp [part, hne]

theorem trim_getElem? (hg : k.entries[g.start]? = some g) (start : Nat) :
    (k.trim span g.start).entries[start]? =
      if span.stop < g.stop ∧ span.stop = start then
        some { g with start := span.stop, size := g.stop - span.stop }
      else if g.start = start then
        if g.start < span.offset then some { g with size := span.offset - g.start } else none
      else k.entries[start]? := by
  unfold trim
  rw [hg]
  obtain rfl | hself := eq_or_ne g.start start
  · by_cases htail : span.stop < g.stop <;> by_cases hhead : g.start < span.offset <;>
      simp only [htail, hhead, if_true, if_false, true_and, false_and, Std.TreeMap.getElem?_insert,
        Std.TreeMap.getElem?_erase, Nat.compare_eq_eq]
  · by_cases htail : span.stop < g.stop <;> by_cases hhead : g.start < span.offset <;>
      simp only [htail, hhead, hself, if_true, if_false, true_and, false_and,
        Std.TreeMap.getElem?_insert,
        Std.TreeMap.getElem?_erase, Nat.compare_eq_eq]

theorem start_ne_of_part (hmeets : g.start < span.stop) (hapart : g.Before h ∨ h.Before g)
    (hx : x ∈ part span todo h) :
    x.start ≠ g.start ∧ (span.stop < g.stop → x.start ≠ span.stop) := by
  obtain ⟨hle, hstart⟩ := mem_part hx
  unfold Highlight.Before at hapart
  omega

theorem Holds.trim (hk : k.Holds (hs.flatMap (part span (g.start :: todo))))
    (hl : hs.Pairwise Highlight.Before) (hg : g ∈ hs)
    (hmeets : g.start < span.stop ∧ span.offset < g.stop) (hnew : g.start ∉ todo) :
    (k.trim span g.start).Holds (hs.flatMap (part span todo)) := by
  have hwhole : part span (g.start :: todo) g = [g] := if_pos List.mem_cons_self
  have hcut : part span todo g = g.outside span := if_neg hnew
  have hentry : k.entries[g.start]? = some g :=
    (hk _ _).mpr ⟨(mem_parts_iff hl hg _).mpr (.inl (hwhole ▸ List.mem_singleton_self g)), rfl⟩
  intro start x
  have hkept : k.entries[start]? = some x ↔
      (x = g ∨ ∃ h ∈ hs, (g.Before h ∨ h.Before g) ∧ x ∈ part span todo h) ∧ x.start = start := by
    rw [hk start x, mem_parts_iff hl hg, hwhole, List.mem_singleton]
    refine and_congr_left fun _ =>
      or_congr_right (exists_congr fun h => and_congr_right fun _ => ?_)
    exact and_congr_right fun hapart => by rw [part_cons_of_apart hapart]
  have hothers : (∃ h ∈ hs, (g.Before h ∨ h.Before g) ∧ x ∈ part span todo h) →
      x.start ≠ g.start ∧ (span.stop < g.stop → x.start ≠ span.stop) := by
    rintro ⟨h, -, hapart, hx⟩
    exact start_ne_of_part hmeets.1 hapart hx
  rw [trim_getElem? hentry, mem_parts_iff hl hg, hcut, Highlight.mem_outside_iff]
  generalize (∃ h ∈ hs, (g.Before h ∨ h.Before g) ∧ x ∈ part span todo h) = other at hkept hothers
  -- What is asked for is the part after the span, the part before it, or an entry that stays.
  split
  · grind
  · split
    · grind
    · grind

/-- From the first highlight that ends before the span back, all of them do: the walk misses none
that the span meets. -/
theorem Holds.met_eq (hk : k.Holds hs) (hl : hs.Pairwise Highlight.Before)
    (hsized : ∀ h ∈ hs, 0 < h.size) (span : ByteRange) :
    k.met span =
      ((hs.filter (·.start < span.stop)).reverse.filter (span.offset < ·.stop)).map (·.start) := by
  have hwalk : (hs.filter (·.start < span.stop)).reverse.Pairwise
      fun a b => decide (span.offset < b.stop) → decide (span.offset < a.stop) := by
    rw [List.pairwise_reverse]
    refine (hl.filter _).imp_of_mem fun {a b} _ hb hab ha => ?_
    obtain ⟨hb, hstart⟩ := List.mem_filter.mp hb
    have hsize := hsized b hb
    have hstart := of_decide_eq_true hstart
    have ha := of_decide_eq_true ha
    have hstop := hab.2
    refine decide_eq_true ?_
    simp only [Highlight.stop_eq, ByteRange.stop, Offset.add, Offset.top] at *
    omega
  unfold met
  rw [hk.toList_eq hl, List.filter_map, ← List.map_reverse, List.takeWhile_map, List.map_map]
  exact congrArg (List.map _) (takeWhile_eq_filter hwalk)

theorem Holds.foldl_trim (hk : k.Holds (hs.flatMap (part span todo)))
    (hl : hs.Pairwise Highlight.Before)
    (hmet : ∀ start ∈ todo, ∃ g ∈ hs, g.start = start ∧ g.start < span.stop ∧ span.offset < g.stop)
    (hnodup : todo.Nodup) :
    (todo.foldl (KeyedLayer.trim span) k).Holds (hs.flatMap (·.outside span)) := by
  induction todo generalizing k with
  | nil => exact hk
  | cons start todo ih =>
    obtain ⟨g, hg, rfl, hmeets⟩ := hmet start List.mem_cons_self
    obtain ⟨hnew, hrest⟩ := List.nodup_cons.mp hnodup
    exact ih (hk.trim hl hg hmeets hnew) (fun start hstart =>
      hmet start (List.mem_cons_of_mem _ hstart)) hrest

end KeyedLayer

/-- A layer and its entries: the highlights are in order and apart, and none is empty. -/
structure KeyedLayer.Matches (k : KeyedLayer) (l : Layer) : Prop where
  holds : k.Holds l.highlights
  ordered : l.Ordered
  sized : ∀ h ∈ l.highlights, 0 < h.size

namespace KeyedLayer.Matches

variable {k : KeyedLayer} {l : Layer}

theorem empty : KeyedLayer.Matches {} ⟨[]⟩ :=
  ⟨holds_empty, .nil, by simp⟩

theorem holds_erase (hk : k.Matches l) (span : ByteRange) :
    (k.erase span).Holds (l.erase span).highlights := by
  unfold KeyedLayer.erase Layer.erase
  split
  · exact hk.holds
  · have hmem {start : Nat} : start ∈ k.met span ↔
        ∃ g ∈ l.highlights, g.start = start ∧ g.start < span.stop ∧ span.offset < g.stop := by
      rw [hk.holds.met_eq hk.ordered hk.sized]
      simp only [List.mem_map, List.mem_filter, List.mem_reverse, decide_eq_true_eq]
      constructor
      · rintro ⟨g, ⟨⟨hg, hstart⟩, hstop⟩, rfl⟩
        exact ⟨g, hg, rfl, hstart, hstop⟩
      · rintro ⟨g, hg, rfl, hstart, hstop⟩
        exact ⟨g, ⟨⟨hg, hstart⟩, hstop⟩, rfl⟩
    have hnodup : (k.met span).Nodup := by
      rw [hk.holds.met_eq hk.ordered hk.sized, List.filter_reverse, List.map_reverse,
        List.nodup_reverse]
      exact List.pairwise_map.mpr
        (((hk.ordered.filter _).filter _).imp fun hab => Nat.ne_of_lt hab.1)
    refine Holds.foldl_trim ?_ hk.ordered (fun start hstart => hmem.mp hstart) hnodup
    -- A highlight that is not on the list lies outside the span already.
    have hwhole : ∀ h ∈ l.highlights, part span (k.met span) h = [h] := by
      intro h hh
      by_cases hmeets : h.start < span.stop ∧ span.offset < h.stop
      · exact if_pos (hmem.mpr ⟨h, hh, rfl, hmeets⟩)
      · rw [part, Highlight.outside, if_neg hmeets, ite_self]
    rw [List.flatMap_congr hwhole, List.flatMap_singleton']
    exact hk.holds

theorem sized_erase (hk : k.Matches l) (span : ByteRange) :
    ∀ h ∈ (l.erase span).highlights, 0 < h.size := by
  intro x hx
  unfold Layer.erase at hx
  split at hx
  · exact hk.sized x hx
  · obtain ⟨h, hh, hx⟩ := List.mem_flatMap.mp hx
    rcases Highlight.mem_outside_iff.mp hx with ⟨-, ⟨hbefore, rfl⟩ | ⟨hafter, rfl⟩⟩ | ⟨-, rfl⟩
    · exact Nat.sub_pos_of_lt hbefore
    · exact Nat.sub_pos_of_lt hafter
    · exact hk.sized x hh

theorem erase (hk : k.Matches l) (span : ByteRange) : (k.erase span).Matches (l.erase span) :=
  ⟨hk.holds_erase span, hk.ordered.erase span, hk.sized_erase span⟩

theorem insert (hk : k.Matches l) (h : Highlight) : (k.insert h).Matches (l.insert h) := by
  by_cases hsize : h.size = 0
  · rw [KeyedLayer.insert, Layer.insert, if_pos hsize, if_pos hsize]
    exact hk
  · have herased := hk.erase h.range
    refine ⟨fun start x => ?_, hk.ordered.insert h, fun x hx => ?_⟩
    · rw [KeyedLayer.insert, if_neg hsize, Std.TreeMap.getElem?_insert,
        Layer.mem_insert_iff hk.ordered hsize]
      have := herased.holds start x
      simp only [Nat.compare_eq_eq]
      grind
    · rcases (Layer.mem_insert_iff hk.ordered hsize).mp hx with rfl | ⟨hx, -⟩
      · exact Nat.pos_of_ne_zero hsize
      · exact herased.sized x hx

/-- The entry with the nearest start is the highlight that contains the offset, if any does. -/
theorem find?_eq (hk : k.Matches l) (o : Nat) : k.find? o = l.find? o := by
  have hstarts : l.highlights.Pairwise fun a b => decide (b.start ≤ o) → decide (a.start ≤ o) := by
    refine hk.ordered.imp fun hab hb => ?_
    have := hab.1
    simp only [decide_eq_true_eq] at *
    omega
  rw [KeyedLayer.find?, Layer.find?, takeWhile_eq_filter hstarts, hk.holds.toList_eq hk.ordered,
    List.filter_map,
    List.getLast?_map, Option.map_map]
  exact congrArg (Option.filter _) Option.map_id'

end KeyedLayer.Matches

/-- Of all highlights of a layer, the one that is looked up is the only one that contains the
offset. -/
theorem Layer.filter_contains {l : Layer} (hl : l.Ordered) (o : Nat) :
    l.highlights.filter (·.range.Contains o) = (l.find? o).toList := by
  have hmem (h : Highlight) : h ∈ l.highlights.filter (·.range.Contains o) ↔
    l.find? o = some h := by
    rw [List.mem_filter, decide_eq_true_eq, find?_eq_some_iff hl]
  have hnodup : (l.highlights.filter (·.range.Contains o)).Nodup :=
    Highlight.nodup_of_before (hl.filter _)
  cases hfound : l.find? o with
  | none =>
    refine List.eq_nil_iff_forall_not_mem.mpr fun h hh => ?_
    cases hfound.symm.trans ((hmem h).mp hh)
  | some g =>
    refine List.perm_singleton.mp
      ((List.perm_ext_iff_of_nodup hnodup (List.nodup_singleton g)).mpr fun h => ?_)
    rw [hmem, hfound, List.mem_singleton, Option.some_inj, eq_comm]

-- ---------------------------------------------------------------------------
-- Runs
-- ---------------------------------------------------------------------------

theorem forall₂_modify {R : α → β → Prop} {as : List α} {bs : List β} (h : as.Forall₂ R bs)
    (hfg : ∀ a b, R a b → R (f a) (g b)) (i : Nat) : (as.modify i f).Forall₂ R (bs.modify i g) := by
  induction h generalizing i with
  | nil => cases i <;> exact .nil
  | cons hab hrest ih =>
    cases i with
    | zero => exact .cons (hfg _ _ hab) hrest
    | succ i => exact .cons hab (ih i)

namespace KeyedLayer

variable {ks : List KeyedLayer} {ls : Layers}

theorem matches_modify (h : ks.Forall₂ Matches ls.layers)
    (hfg : ∀ k l, Matches k l → Matches (f k) (g l)) (layer : Nat) :
    (ks.modify layer f).Forall₂ Matches (ls.accept (ls.modify layer g)).layers := by
  rw [Layers.accept_modify]
  exact forall₂_modify h hfg layer

/-- A change does the same to the entries as to the layers. -/
theorem matches_change (h : ks.Forall₂ Matches ls.layers) (c : Layers.Change) :
    (change ks c).Forall₂ Matches (ls.change c).layers := by
  cases c with
  | add layer x => exact matches_modify h (fun k l hk => hk.insert x) layer
  | remove layer span =>
    rw [change, Layers.change, Layers.remove]
    split
    · exact h
    · exact matches_modify h (fun k l hk => hk.erase span) layer
  | clear layer =>
    cases layer with
    | some layer => exact matches_modify h (fun k l _ => .empty) layer
    | none =>
      change (ks.map fun _ => _).Forall₂ Matches (ls.layers.map fun _ => _)
      rw [List.forall₂_map_left_iff, List.forall₂_map_right_iff]
      exact h.imp fun k l _ => .empty
  | push => exact List.rel_append h (.cons .empty .nil)

theorem matches_changes (h : ks.Forall₂ Matches ls.layers) (cs : List Layers.Change) :
    (cs.foldl change ks).Forall₂ Matches (cs.foldl Layers.change ls).layers := by
  induction cs generalizing ks ls with
  | nil => exact h
  | cons c cs ih => exact ih (matches_change h c)

end KeyedLayer

theorem KeyedLayer.matches_run (n : Nat) (changes : List Layers.Change) :
    (changes.foldl KeyedLayer.change (List.replicate n {})).Forall₂ KeyedLayer.Matches
      (changes.foldl Layers.change (.ofCount n)).layers := by
  have hnew : (List.replicate n ({} : KeyedLayer)).Forall₂ KeyedLayer.Matches
      (Layers.ofCount n).layers := by
    rw [List.forall₂_iff_get]
    simp [Layers.ofCount, KeyedLayer.Matches.empty]
  exact KeyedLayer.matches_changes hnew changes

/-- After any changes to new layers, the entries of each one are its highlights under their starts.
They have positive sizes, every one ends before the next one starts, and a lookup finds the one
among them that contains an offset. -/
theorem Layers.stored_apart (n : Nat) (changes : List Change) :
    List.Forall₂
      (fun (k : KeyedLayer) (l : Layer) =>
        k.entries.toList = l.highlights.map (fun h => (h.start, h)) ∧
          (∀ h ∈ l.highlights, 0 < h.size) ∧
          l.highlights.Pairwise (fun a b => a.start < b.start ∧ a.stop ≤ b.start) ∧
          ∀ o, l.highlights.filter (·.range.Contains o) = (l.find? o).toList ∧
            k.find? o = l.find? o)
      (changes.foldl KeyedLayer.change (List.replicate n {}))
      (changes.foldl Layers.change (.ofCount n)).layers := by
  refine (KeyedLayer.matches_run n changes).imp fun k l hk => ?_
  refine ⟨hk.holds.toList_eq hk.ordered, hk.sized, hk.ordered, fun o => ?_⟩
  exact ⟨Layer.filter_contains hk.ordered o, hk.find?_eq o⟩

end HexEditor
