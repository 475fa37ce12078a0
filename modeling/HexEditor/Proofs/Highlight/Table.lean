import HexEditor.Proofs.Highlight.Layer

/-!
# Layers as a table of colors

`find?_eq_table`: after any changes, accepted or rejected, the layers color every offset like a
table with a row for each layer, in which a highlight paints the offsets of its span, the last one
wins, and an offset shows the first row that is painted there.
-/

namespace HexEditor

namespace Layers

/-- What a host can do to the layers. -/
inductive Change
  | add (layer : Nat) (h : Highlight)
  | remove (layer : Nat) (span : ByteRange)
  | clear (layer : Option Nat)
  | push
deriving DecidableEq, Repr

def accept (ls : Layers) : Except Error Layers → Layers
  | .ok changed => changed
  | .error _ => ls

def change (ls : Layers) : Change → Layers
  | .add layer h => ls.accept (ls.add layer h)
  | .remove layer span => ls.accept (ls.remove layer span)
  | .clear layer => ls.accept (ls.clear layer)
  | .push => ls.push

end Layers

/-- For each layer the colors of every offset. -/
abbrev ColorTable := List (Nat → Option (Option Color × Option Color))

namespace ColorTable

/-- A row with an entry for each offset of a span; there is none at the largest offset. -/
def paintSpan (offset length : Nat) (entry : Option (Option Color × Option Color))
    (row : Nat → Option (Option Color × Option Color)) :
    Nat → Option (Option Color × Option Color) :=
  fun o => if offset ≤ o ∧ o < min (offset + length) (2 ^ 64 - 1) then entry else row o

theorem paintSpan_zero (offset : Nat) (entry : Option (Option Color × Option Color)) :
    paintSpan offset 0 entry = id := by
  funext row o
  exact if_neg (by omega)

def change (t : ColorTable) : Layers.Change → ColorTable
  | .add layer h => t.modify layer (paintSpan h.start h.size (some (h.foreground, h.background)))
  | .remove layer span => t.modify layer (paintSpan span.offset span.length none)
  | .clear (some layer) => t.modify layer fun _ _ => none
  | .clear none => t.map fun _ _ => none
  | .push => t ++ [fun _ => none]

end ColorTable

namespace Layers

variable {ls : Layers} {t : ColorTable}

/-- The layers are in order and give the colors of a table. -/
structure Shows (ls : Layers) (t : ColorTable) : Prop where
  ordered : ∀ l ∈ ls.layers, l.Ordered
  colors : ls.layers.map Layer.paint = t

theorem accept_modify (ls : Layers) (layer : Nat) (f : Layer → Layer) :
    ls.accept (ls.modify layer f) = ⟨ls.layers.modify layer f⟩ := by
  unfold modify
  split
  · rfl
  · rename_i hlayer
    rw [List.modify_eq_self (Nat.le_of_not_lt hlayer)]
    rfl

theorem Shows.modify (h : ls.Shows t) (hordered : ∀ l, l.Ordered → (f l).Ordered)
    (hpaint : ∀ l, l.Ordered → (f l).paint = row l.paint) (layer : Nat) :
    Shows ⟨ls.layers.modify layer f⟩ (t.modify layer row) := by
  constructor
  · intro l hl
    obtain ⟨i, hi⟩ := List.getElem?_of_mem hl
    rw [List.getElem?_modify, Option.map_eq_map, Option.map_eq_some_iff] at hi
    obtain ⟨old, hold, rfl⟩ := hi
    have hold := h.ordered old (List.mem_of_getElem? hold)
    split
    · exact hordered old hold
    · exact hold
  · apply List.ext_getElem?
    intro i
    rw [← h.colors, List.getElem?_map, List.getElem?_modify, List.getElem?_modify,
      List.getElem?_map]
    cases hi : ls.layers[i]? with
    | none => rfl
    | some l =>
      have hl := hpaint l (h.ordered l (List.mem_of_getElem? hi))
      simp only [Option.map_eq_map, Option.map_some]
      split
      · rw [hl]
      · rfl

theorem Shows.accept_modify (h : ls.Shows t) (hordered : ∀ l, l.Ordered → (f l).Ordered)
    (hpaint : ∀ l, l.Ordered → (f l).paint = row l.paint) (layer : Nat) :
    (ls.accept (ls.modify layer f)).Shows (t.modify layer row) := by
  rw [Layers.accept_modify]
  exact h.modify hordered hpaint layer

/-- Every change has the same effect on the layers and on the table. -/
theorem Shows.change (h : ls.Shows t) (c : Change) : (ls.change c).Shows (t.change c) := by
  cases c with
  | add layer x =>
    exact h.accept_modify (fun l hl => hl.insert x)
      (fun l hl => funext (Layer.paint_insert hl x)) layer
  | remove layer span =>
    have herase :
        (ls.accept (ls.modify layer (·.erase span))).Shows (t.change (.remove layer span)) :=
      h.accept_modify (fun l hl => hl.erase span)
        (fun l hl => funext (Layer.paint_erase hl span)) layer
    by_cases hspan : span.IsEmpty
    · -- An empty span is rejected, and has nothing to paint.
      rw [Layers.change, remove, if_pos hspan, ColorTable.change, show span.length = 0 from hspan,
        ColorTable.paintSpan_zero, List.modify_id]
      exact h
    · rw [Layers.change, remove, if_neg hspan]
      exact herase
  | clear layer =>
    cases layer with
    | some layer => exact h.accept_modify (fun l _ => .nil) (fun l _ => rfl) layer
    | none =>
      constructor
      · intro l hl
        obtain ⟨-, -, rfl⟩ := List.mem_map.mp hl
        exact .nil
      · rw [ColorTable.change, ← h.colors, List.map_map]
        exact List.map_map
  | push =>
    constructor
    · intro l hl
      rcases List.mem_append.mp hl with hl | hl
      · exact h.ordered l hl
      · rw [List.mem_singleton.mp hl]
        exact .nil
    · rw [ColorTable.change, ← h.colors]
      exact List.map_append

theorem shows_ofCount (n : Nat) : (ofCount n).Shows (List.replicate n fun _ => none) := by
  constructor
  · intro l hl
    rw [List.eq_of_mem_replicate hl]
    exact .nil
  · exact List.map_replicate

theorem Shows.changes (h : ls.Shows t) (cs : List Change) :
    (cs.foldl Layers.change ls).Shows (cs.foldl ColorTable.change t) := by
  induction cs generalizing ls t with
  | nil => exact h
  | cons c cs ih => exact ih (h.change c)

/-- After any changes to new layers, each layer colors every offset as its row of the table does,
and all of them as the first row that is painted there. -/
theorem find?_eq_table (n : Nat) (changes : List Change) (l o : Nat) :
    let ls := changes.foldl Layers.change (.ofCount n)
    let table := changes.foldl ColorTable.change (List.replicate n fun _ => none)
    ls.layers[l]?.map (fun layer => (layer.find? o).map Highlight.colors) = table[l]?.map (· o) ∧
      (ls.find? o).map Highlight.colors = table.findSome? (· o) := by
  intro ls table
  have h : ls.Shows table := (shows_ofCount n).changes changes
  rw [← h.colors]
  constructor
  · rw [List.getElem?_map, Option.map_map]
    rfl
  · rw [Layers.find?, List.map_findSome?, List.findSome?_map]
    rfl

end Layers

end HexEditor
