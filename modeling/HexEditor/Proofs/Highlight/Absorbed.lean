import HexEditor.Proofs.Highlight.Edit

/-!
# The last edit of a span

An edit of a span first clears it, so nothing of what the span held before is left to matter.
`Layers.edit_absorbed` draws the conclusion: when a span is edited twice, the first edit might as
well not have been made. A highlight stored twice is stored once, and a span that is colored and
then cleared, or cleared and then colored, is as if only the second had been done.
-/

namespace HexEditor

namespace Highlight

theorem outside_self (h : Highlight) (hh : h.start < h.stop) : h.outside h.range = [] := by
  have hpieces : h.outside h.range = h.piece h.start h.start ++ h.piece h.stop h.stop :=
    outside_of_meets ⟨hh, hh⟩
  simp [hpieces, piece]

end Highlight

namespace Layer

variable {l : Layer} {span : ByteRange}

theorem erase_of_apart (hapart : ∀ x ∈ l.highlights, x.stop ≤ span.offset ∨ span.stop ≤ x.start) :
    l.erase span = l := by
  unfold erase
  split
  · rfl
  · rw [List.flatMap_congr fun x hx => Highlight.outside_of_apart (hapart x hx),
      List.flatMap_singleton']

theorem erase_erase (l : Layer) (span : ByteRange) : (l.erase span).erase span = l.erase span := by
  by_cases hspan : span.IsEmpty
  · simp only [erase, hspan, if_true]
  · exact erase_of_apart fun x hx => mem_erase hspan hx

end Layer

theorem KeyedLayer.Matches.erase_insert {k : KeyedLayer} {l : Layer} {h : Highlight}
    (hk : k.Matches l) (hh : h.start < h.stop) :
    (l.insert h).erase h.range = l.erase h.range := by
  have hspan : ¬ h.range.IsEmpty := ByteRange.not_isEmpty_of_lt hh
  refine Layer.Ordered.ext ((hk.ordered.insert h).erase h.range)
    (hk.ordered.erase h.range) fun x => ?_
  have hkept : ∀ y ∈ (l.erase h.range).highlights, y.outside h.range = [y] :=
    fun y hy => Highlight.outside_of_apart (Layer.mem_erase hspan hy)
  rw [Layer.highlights_erase hspan, List.mem_flatMap]
  constructor
  · rintro ⟨y, hy, hx⟩
    obtain rfl | hy := (hk.mem_insert_of_lt hh).mp hy
    · simp [y.outside_self hh] at hx
    · rw [hkept y hy, List.mem_singleton] at hx
      exact hx ▸ hy
  · intro hx
    exact ⟨x, (hk.mem_insert_of_lt hh).mpr (.inr hx), by simp [hkept x hx]⟩

namespace Layer.Edit

variable {e f : Edit} {k : KeyedLayer} {l : Layer}

theorem accepted_of_lt (he : e.span.offset < e.span.stop) : e.Accepted := by
  cases e with
  | insert h => trivial
  | erase span => exact ByteRange.not_isEmpty_of_lt he

theorem apply_erase (e : Edit) (l : Layer) : e.apply (l.erase e.span) = e.apply l := by
  cases e with
  | insert h =>
    by_cases hsize : h.size = 0
    · have hspan : h.range.IsEmpty := hsize
      simp only [apply, span, Layer.insert, Layer.erase, hsize, hspan, if_true]
    · simp only [apply, span, Layer.insert, hsize, if_false, erase_erase]
  | erase span => exact erase_erase l span

theorem erase_apply (hk : k.Matches l) (he : e.span.offset < e.span.stop) :
    (e.apply l).erase e.span = l.erase e.span := by
  cases e with
  | insert h => exact hk.erase_insert he
  | erase span => exact erase_erase l span

theorem apply_apply (hk : k.Matches l) (hspan : e.span = f.span)
    (hf : f.span.offset < f.span.stop) :
    f.apply (e.apply l) = f.apply l :=
  calc f.apply (e.apply l)
    _ = f.apply ((e.apply l).erase e.span) := by rw [hspan, apply_erase]
    _ = f.apply (l.erase e.span) := by rw [erase_apply hk (hspan ▸ hf)]
    _ = f.apply l := by rw [hspan, apply_erase]

end Layer.Edit

namespace Layers

variable {ls : Layers} {ks : List KeyedLayer} {e f : Layer.Edit}

theorem modify_modify_absorbed (h : ks.Forall₂ KeyedLayer.Matches ls.layers)
    (hspan : e.span = f.span) (hf : f.span.offset < f.span.stop) (i : Nat) :
    (ls.layers.modify i e.apply).modify i f.apply = ls.layers.modify i f.apply := by
  apply List.ext_getElem?
  intro n
  rw [List.modify_modify_eq, List.getElem?_modify, List.getElem?_modify]
  cases hn : ls.layers[n]? with
  | none => rfl
  | some l =>
    obtain ⟨k, hk⟩ := KeyedLayer.exists_matches h (List.mem_of_getElem? hn)
    simp only [Option.map_eq_map, Option.map_some, Function.comp_apply,
      Layer.Edit.apply_apply hk hspan hf]

theorem edit_of_le (hi : ls.count ≤ i) (he : e.Accepted) :
    ls.edit i e = .error (.invalid (.noSuchLayer i ls.count)) := by
  cases e with
  | insert h => exact if_neg (Nat.not_lt.mpr hi)
  | erase span => exact (if_neg he).trans (if_neg (Nat.not_lt.mpr hi))

/-- Of two edits of one span of a layer, each of them a highlight that is added or a span that is
cleared, the second one stores the same as if it were the only one, in the layers as in the entries
of their trees. Both are accepted if there is such a layer, and both are refused otherwise. -/
theorem edit_absorbed (n : Nat) (changes : List Change)
    (hls : ls = changes.foldl Layers.change (.ofCount n))
    (hks : ks = changes.foldl KeyedLayer.change (List.replicate n {})) (hspan : e.span = f.span)
    (hoffset : f.span.offset < 2 ^ 64 - 1) (hlength : 0 < f.span.length) (i : Nat) :
    (i < ls.count → ∃ once stored, ls.edit i e = .ok once ∧ once.edit i f = .ok stored ∧
      ls.edit i f = .ok stored) ∧
    (ls.count ≤ i → ∃ refused, ls.edit i e = .error refused ∧ ls.edit i f = .error refused) ∧
    (ls.change (e.on i)).change (f.on i) = ls.change (f.on i) ∧
    (KeyedLayer.change (KeyedLayer.change ks (e.on i)) (f.on i)).map (·.entries.toList) =
      (KeyedLayer.change ks (f.on i)).map (·.entries.toList) := by
  have hmatches : ks.Forall₂ KeyedLayer.Matches ls.layers :=
    hls ▸ hks ▸ KeyedLayer.matches_run n changes
  have hf : f.span.offset < f.span.stop := by
    unfold ByteRange.stop Offset.add Offset.top
    omega
  have heaccepted : e.Accepted := Layer.Edit.accepted_of_lt (hspan ▸ hf)
  have hfaccepted : f.Accepted := Layer.Edit.accepted_of_lt hf
  have hstored (hi : i < ls.count) :
      ∃ once stored, ls.edit i e = .ok once ∧ once.edit i f = .ok stored ∧
        ls.edit i f = .ok stored := by
    have honce : ls.edit i e = .ok ⟨ls.layers.modify i e.apply⟩ := edit_ok.mpr ⟨hi, heaccepted, rfl⟩
    refine ⟨_, ⟨ls.layers.modify i f.apply⟩, honce,
      edit_ok.mpr ⟨by rwa [count_edit honce], hfaccepted, ?_⟩,
      edit_ok.mpr ⟨hi, hfaccepted, rfl⟩⟩
    rw [modify_modify_absorbed hmatches hspan hf]
  have hrefused (hi : ls.count ≤ i) : ∃ refused, ls.edit i e = .error refused ∧
    ls.edit i f = .error refused :=
    ⟨_, edit_of_le hi heaccepted, edit_of_le hi hfaccepted⟩
  have hsame : (ls.change (e.on i)).change (f.on i) = ls.change (f.on i) := by
    rcases Nat.lt_or_ge i ls.count with hi | hi
    · obtain ⟨once, stored, he, hboth, hstored⟩ := hstored hi
      rw [change_of_edit he, change_of_edit hboth, change_of_edit hstored]
    · obtain ⟨refused, he, -⟩ := hrefused hi
      rw [change_on ls i e, he]
      rfl
  refine ⟨hstored, hrefused, hsame, ?_⟩
  rw [KeyedLayer.toList_eq_of_matches
    (KeyedLayer.matches_change (KeyedLayer.matches_change hmatches (e.on i)) (f.on i)),
    KeyedLayer.toList_eq_of_matches (KeyedLayer.matches_change hmatches (f.on i)), hsame]

/-- A span that reaches past the largest offset, cut out of another one that does so too: colored in
blue and then cleared, and colored in blue and then in green. -/
theorem edit_absorbed_top :
    let red : Highlight := ⟨100, 2 ^ 64 - 1, some ⟨255, 0, 0, 255⟩, none⟩
    let blue : Highlight := ⟨2 ^ 64 - 10, 20, some ⟨0, 0, 255, 255⟩, none⟩
    let green : Highlight := { blue with background := some ⟨0, 255, 0, 255⟩ }
    let ls : Layers := [Change.add 0 red].foldl Layers.change (.ofCount 1)
    (ls.change (.add 0 blue)).change (.remove 0 blue.range) =
    ⟨[⟨[{ red with size := 2 ^ 64 - 110 }]⟩]⟩ ∧
      (ls.change (.add 0 blue)).change (.add 0 green) =
      ⟨[⟨[{ red with size := 2 ^ 64 - 110 }, green]⟩]⟩ := by
  intro red blue green ls
  have hcleared :=
    (edit_absorbed (e := .insert blue) (f := .erase blue.range) 1 [.add 0 red] rfl rfl rfl
      (by decide) (by decide) 0).2.2.1
  have hcolored :=
    (edit_absorbed (e := .insert blue) (f := .insert green) 1 [.add 0 red] rfl rfl rfl (by decide)
      (by decide) 0).2.2.1
  exact ⟨hcleared.trans (by decide), hcolored.trans (by decide)⟩

end Layers

end HexEditor
