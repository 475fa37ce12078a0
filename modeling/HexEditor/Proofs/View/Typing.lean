import HexEditor.Proofs.Hex
import HexEditor.Proofs.Selection
import HexEditor.Proofs.Source.Memory
import HexEditor.Proofs.View.Resident
import HexEditor.Source

/-!
# Digits typed into a memory

Two digits overwrite a byte, the first its high half and the second its low half, and the caret goes
on to the next position. So a text that spells bytes puts them where the bytes of those positions
are drawn, and what a view shows of its bytes can be typed into another one.

The caret does not pass the end of the data that the view knows of. In a memory that has become
longer, digits typed at the old end all go to one place until the next tick; `typeChars_overtaken`
shows it.
-/

namespace HexEditor

theorem toNat_setDigit (old : UInt8) (high : Bool) (hd : d < 16) :
    (setDigit old high d).toNat =
      if high then 16 * d + old.toNat % 16 else old.toNat / 16 * 16 + d := by
  have hold := old.toNat_lt
  cases high with
  | true =>
    change (16 * d + old.toNat % 16).toUInt8.toNat = 16 * d + old.toNat % 16
    rw [Nat.toUInt8, UInt8.toNat_ofNat']
    omega
  | false =>
    change (old.toNat / 16 * 16 + d).toUInt8.toNat = old.toNat / 16 * 16 + d
    rw [Nat.toUInt8, UInt8.toNat_ofNat']
    omega

theorem setDigit_setDigit (old b : UInt8) :
    setDigit (setDigit old true (b.toNat / 16)) false (b.toNat % 16) = b := by
  have hb := b.toNat_lt
  apply UInt8.toNat_inj.mp
  rw [toNat_setDigit _ _ (by omega), toNat_setDigit _ _ (by omega), if_neg (by decide), if_pos rfl]
  omega

namespace View

variable [ByteSource τ]

/-- An enabled view of an editable memory, with the caret in the hex pane. -/
structure Ready (v : View (AnySource τ)) (m : Memory) : Prop where
  source : v.source = some (.inl m)
  defined : v.poller.status = .defined
  enabled : v.enabled = true
  pane : v.activePane = .hex
  editable : m.editable = true
  size_lt : m.bytes.size < 2 ^ 63

/-- What typing leaves of a view, with other bytes in the memory and the caret elsewhere. -/
structure Typed (v w : View (AnySource τ)) (m : Memory) (caret : Nat) : Prop where
  ready : w.Ready m
  caret : w.caret = caret
  limit : w.selection.limit = v.selection.limit
  layout : w.layout = v.layout

variable {v w : View (AnySource τ)} {m : Memory}

theorem Ready.length_eq (h : v.Ready m) : v.length = m.bytes.size := by
  rw [View.length, h.source]
  rfl

theorem Ready.flip_lt (h : v.Ready m) (hl : v.layout.Valid) (hp : p < m.bytes.size) :
    v.grid.flip p < m.bytes.size := by
  rw [← h.length_eq] at hp ⊢
  exact Grid.flip_lt hl hp

theorem caretOffset_eq (p half : Nat) (hcaret : v.caret = 2 * p + half) (hhalf : half < 2) :
    v.caretOffset = v.grid.flip p := by
  rw [caretOffset, Grid.offsetOfNibble, hcaret, show (2 * p + half) / 2 = p by omega]

theorem Typed.flip_eq (h : v.Typed w m' n) (hv : v.Ready m) (hsize : m'.bytes.size = m.bytes.size) :
    w.grid.flip = v.grid.flip := by
  funext p
  refine Grid.flip_congr h.layout ?_ p
  change w.length = v.length
  rw [h.ready.length_eq, hv.length_eq, hsize]

theorem read_byte (hold : m.bytes[i]? = some old) :
    ByteSource.read (.inl m : AnySource τ) ⟨i, 1⟩ = .ok #[old] := by
  obtain ⟨hi, rfl⟩ := Array.getElem?_eq_some_iff.mp hold
  obtain ⟨data, hread, hdata⟩ :=
    AnySource.read_eq (s := (.inl m : AnySource τ)) rfl (r := ⟨i, 1⟩) hi
  have hextract := Array.push_extract_getElem (i := i) hi
  rw [Nat.min_self, Array.extract_empty_of_stop_le_start (Nat.le_refl i)] at hextract
  rw [hread, hdata nofun, ← hextract]
  rfl

theorem write_byte (heditable : m.editable = true) (hi : i < m.bytes.size) (b : UInt8) :
    ByteSource.write (.inl m : AnySource τ) i #[b] =
      .ok (.inl { m with bytes := m.bytes.overwrite i #[b] }) := by
  have hwrite : m.write i #[b] = .ok { m with bytes := m.bytes.overwrite i #[b] } :=
    Memory.write_ok.mpr ⟨heditable, ByteRange.within_of_le hi, rfl⟩
  change Sum.inl <$> m.write i #[b] = _
  rw [hwrite]
  rfl

theorem editable_inl : ByteSource.editable (.inl m : AnySource τ) = m.editable :=
  rfl

theorem Ready.typeChar (h : v.Ready m) (hd : Hex.value? c = some d)
    (hold : m.bytes[v.caretOffset]? = some old) (hcaret : v.caret < 2 * m.bytes.size)
    (hlimit : v.caret < v.selection.limit) :
    ∃ edit, (v.typeChar c).1 = .ok edit ∧
      v.Typed (v.typeChar c).2
        { m with bytes := m.bytes.overwrite v.caretOffset #[setDigit old (v.caret % 2 = 0) d] }
        (v.caret + 1) := by
  have hi := (Array.getElem?_eq_some_iff.mp hold).choose
  have htyped : v.typedByte (.inl m) v.caretOffset c = .ok (setDigit old (v.caret % 2 = 0) d) := by
    rw [typedByte, h.pane, if_neg (by decide), hd, read_byte hold]
    rfl
  have hend : ¬ 2 * ByteSource.length (.inl m : AnySource τ) ≤ v.caret := Nat.not_le.mpr hcaret
  have happly : v.applyChar c = .ok (⟨v.caretOffset, setDigit old (v.caret % 2 = 0) d⟩,
      .inl { m with
        bytes := m.bytes.overwrite v.caretOffset #[setDigit old (v.caret % 2 = 0) d] }) := by
    rw [applyChar, h.source]
    simp only [h.enabled, h.defined, hend, htyped, write_byte h.editable hi, editable_inl,
      h.editable, not_true_eq_false,
      reduceCtorEq, if_false]
  have hstep : v.horizontalStep = 1 := by
    rw [horizontalStep, h.pane]
    rfl
  have htop : v.caret < Offset.top := by
    have := h.size_lt
    unfold Offset.top
    omega
  rw [View.typeChar, happly]
  refine ⟨_, rfl, ⟨rfl, h.defined, h.enabled, h.pane, h.editable, ?_⟩, ?_,
    v.selection.limit_moveBy _ _, rfl⟩
  · rw [Bytes.size_overwrite]
    exact h.size_lt
  · rw [hstep]
    exact Selection.caret_moveBy_one hlimit htop

theorem Ready.typeByte (h : v.Ready m) (hl : v.layout.Valid) (hcaret : v.caret = 2 * p)
    (hp : p < m.bytes.size) (hlimit : 2 * (p + 1) ≤ v.selection.limit)
    (hhigh : Hex.value? high = some (b.toNat / 16)) (hlow : Hex.value? low = some (b.toNat % 16)) :
    ∃ first second, (v.typeChar high).1 = .ok first ∧
      ((v.typeChar high).2.typeChar low).1 = .ok second ∧
      v.Typed ((v.typeChar high).2.typeChar low).2
        { m with bytes := m.bytes.overwrite (v.grid.flip p) #[b] }
        (2 * (p + 1)) := by
  have hin := h.flip_lt hl hp
  have hold : m.bytes[v.grid.flip p]? = some m.bytes[v.grid.flip p] := Array.getElem?_eq_getElem hin
  generalize m.bytes[v.grid.flip p] = old at hold
  -- The first digit leaves the low half as it was, and the second one keeps the new high half.
  have hoffset := caretOffset_eq p 0 hcaret (by decide)
  obtain ⟨first, hfirst, htyped⟩ := h.typeChar hhigh (hoffset ▸ hold) (by omega) (by omega)
  rw [hoffset, hcaret, decide_eq_true (Nat.mul_mod_right 2 p)] at htyped
  generalize (v.typeChar high).2 = u at htyped ⊢
  have hoffset' := caretOffset_eq p 1 htyped.caret (by decide)
  rw [htyped.flip_eq h (Bytes.size_overwrite _ _ _)] at hoffset'
  have hold' :
      (m.bytes.overwrite (v.grid.flip p) #[setDigit old true (b.toNat / 16)])[u.caretOffset]? =
      some (setDigit old true (b.toNat / 16)) := by
    rw [hoffset', Bytes.getElem?_overwrite, if_pos rfl, hold]
    rfl
  have hcaret' := htyped.caret
  have hlimit' := htyped.limit
  obtain ⟨second, hsecond, htyped'⟩ := htyped.ready.typeChar hlow hold'
    (by rw [Bytes.size_overwrite]; omega) (by omega)
  rw [hoffset', hcaret', decide_eq_false (by omega), Bytes.overwrite_overwrite,
    setDigit_setDigit] at htyped'
  exact ⟨first, second, hfirst, hsecond, htyped'.ready, htyped'.caret, htyped'.limit.trans hlimit',
    htyped'.layout.trans htyped.layout⟩

/-- Digits that spell bytes are all applied, and the bytes go where the positions from the caret on
are drawn. -/
theorem Ready.typeChars (h : v.Ready m) (hl : v.layout.Valid) (hcaret : v.caret = 2 * p)
    (hsize : p + bytes.length ≤ m.bytes.size) (hlimit : 2 * (p + bytes.length) ≤ v.selection.limit)
    (hspells : Hex.Spells cs bytes) :
    (∀ outcome ∈ (v.typeChars cs).1, ∃ edit, outcome = .ok edit) ∧
      v.Typed (v.typeChars cs).2 { m with bytes := m.bytes.scatter v.grid.flip p bytes }
        (2 * (p + bytes.length)) := by
  induction bytes generalizing v m p cs with
  | nil =>
    obtain rfl : cs = [] := List.map_eq_nil_iff.mp hspells
    exact ⟨nofun, h, hcaret, rfl, rfl⟩
  | cons b bytes ih =>
    obtain ⟨high, low, rest, rfl, hhigh, hlow, hrest⟩ := hspells.cons_inv
    rw [List.length_cons] at hsize hlimit ⊢
    obtain ⟨first, second, hfirst, hsecond, htyped⟩ :=
      h.typeByte hl hcaret (by omega) (by omega) hhigh hlow
    have hflip := htyped.flip_eq h (Bytes.size_overwrite _ _ _)
    have hrun := ih htyped.ready (htyped.layout ▸ hl) htyped.caret
      (by rw [Bytes.size_overwrite]; omega) (by rw [htyped.limit]; omega) hrest
    rw [hflip, Nat.add_assoc, Nat.add_comm 1] at hrun
    obtain ⟨houtcomes, hlast⟩ := hrun
    refine ⟨?_, hlast.ready, hlast.caret, hlast.limit.trans htyped.limit,
      hlast.layout.trans htyped.layout⟩
    change ∀ outcome ∈ _ :: _ :: _, _
    simp only [List.forall_mem_cons]
    exact ⟨⟨first, hfirst⟩, ⟨second, hsecond⟩, houtcomes⟩

end View

-- ---------------------------------------------------------------------------
-- What is shown, typed back
-- ---------------------------------------------------------------------------

def Frame.hexText (f : Frame) : String :=
  String.join ((f.cells.filter (·.pane = .hex)).map (·.text))

def Grid.drawn (g : Grid) (bytes : Bytes) : List UInt8 :=
  (List.range bytes.size).map fun p => bytes.getD (g.flip p) 0

theorem Grid.scatter_drawn {g : Grid} {old bytes : Bytes} (hl : g.layout.Valid)
    (hlength : g.length = bytes.size) (hsize : old.size = bytes.size) :
    old.scatter g.flip 0 (g.drawn bytes) = bytes := by
  apply Array.ext_getElem?
  intro i
  by_cases hi : i < bytes.size
  · have hdrawn : g.flip i < bytes.size := by
      rw [← hlength] at hi ⊢
      exact flip_lt hl hi
    have hplaced : (old.scatter g.flip 0 (g.drawn bytes))[g.flip (0 + g.flip i)]? =
      (g.drawn bytes)[g.flip i]? := by
      refine Bytes.getElem?_scatter old (fun q r => flip_inj hl) ?_ ?_
      · simpa [drawn] using hdrawn
      · rw [Nat.zero_add, flip_flip hl, hsize]
        exact hi
    rw [Nat.zero_add, flip_flip hl] at hplaced
    rw [hplaced, drawn, List.getElem?_map, List.getElem?_range hdrawn, Option.map_some,
      flip_flip hl,
      Array.getElem?_eq_getElem hi, Array.getD, dif_pos hi]
    rfl
  · have hi' : ¬ i < (old.scatter g.flip 0 (g.drawn bytes)).size := by
      rwa [Bytes.size_scatter, hsize]
    rw [Array.getElem?_eq_none (Nat.not_lt.mp hi), Array.getElem?_eq_none (Nat.not_lt.mp hi')]

namespace Scene

variable {s : Scene}

theorem hexText_compose {bytes : Bytes} (hl : s.grid.layout.Valid)
    (hlength : s.grid.length = bytes.size)
    (hdata : s.data = some (bytes.extract s.grid.firstByte (s.grid.firstByte + s.grid.shownBytes)))
    (hall : s.grid.shownBytes = bytes.size) :
    s.compose.hexText.toList = (s.grid.drawn bytes).flatMap fun b => (Hex.byte b).toList := by
  have htexts : (List.range s.grid.shownBytes).map (fun i => (s.hexCell i).text) =
      (s.grid.drawn bytes).map Hex.byte := by
    rw [Grid.drawn, List.map_map, ← hall]
    refine List.map_congr_left fun i hi => ?_
    have hi := List.mem_range.mp hi
    have hfirst : s.grid.firstByte = 0 := by
      have := hall
      unfold Grid.shownBytes at this
      omega
    obtain ⟨b, hb, hshown⟩ := byteAt?_flip hl hlength hdata
      (p := s.grid.firstByte + i) (by rw [Grid.shownPositions, List.mem_range'_1]; omega)
    simp only [hexCell, hshown, Option.elim_some]
    rw [hfirst, Nat.zero_add] at hb
    rw [Function.comp_apply, Array.getD_eq_getD_getElem?, hb]
    rfl
  rw [Frame.hexText, String.toList_join]
  change ((s.cells.filter _).map _).flatMap _ = _
  rw [filter_hex, List.map_map]
  change ((List.range s.grid.shownBytes).map fun i => (s.hexCell i).text).flatMap _ = _
  rw [htexts, List.flatMap_map]

end Scene

namespace View

variable [ByteSource τ]

theorem hexText_render {v : View (AnySource τ)} (hv : v.Reachable AnySource.Drifts)
    (hs : v.source = some s) (hb : s.bytes? = some bytes) (hsize : s.Addressable)
    (hall : v.grid.shownBytes = bytes.size) (now : Nat) :
    (v.render now).1.hexText.toList = (v.grid.drawn bytes).flatMap fun b =>
    (Hex.byte b).toList := by
  have hlength : v.length = bytes.size := by
    rw [View.length, hs]
    exact AnySource.length_eq hb
  rw [render_eq hv hs hb hsize]
  exact Scene.hexText_compose hv.valid.layout hlength rfl hall

theorem Ready.typeText_drawn {v : View (AnySource τ)} (h : v.Ready m) (hl : v.layout.Valid)
    (hcaret : v.caret = 0) (hsize : bytes.size = m.bytes.size)
    (hlimit : 2 * m.bytes.size ≤ v.selection.limit)
    (htext : text.toList = (v.grid.drawn bytes).flatMap fun b => (Hex.byte b).toList) :
    (v.typeText text).2.source = some (.inl { m with bytes := bytes }) := by
  have hcount : (v.grid.drawn bytes).length = m.bytes.size := by
    rw [Grid.drawn, List.length_map, List.length_range, hsize]
  have hspells := htext ▸ Hex.spells_bytes (v.grid.drawn bytes)
  obtain ⟨-, htyped⟩ := h.typeChars (p := 0) hl hcaret (by omega) (by omega) hspells
  rw [Grid.scatter_drawn hl (h.length_eq.trans hsize.symm) hsize.symm] at htyped
  exact htyped.ready.source

/-- Digits typed into a memory, as far as the view knows it to reach, are applied one and all: they
put each byte where its position is drawn, leave the others alone and the caret behind them. So the
text of a frame that shows all bytes, typed from the start over as many bytes in the same layout,
gives the same bytes. -/
theorem typeChars_spells {v : View (AnySource τ)} (hv : v.Reachable AnySource.Drifts)
    (hs : v.source = some (.inl m)) (heditable : m.editable = true) (hsize : m.bytes.size < 2 ^ 63)
    (henabled : v.enabled = true) (hpane : v.activePane = .hex) :
    (∀ p bytes cs, v.caret = 2 * p → p + bytes.length ≤ m.bytes.size →
      2 * (p + bytes.length) ≤ v.selection.limit →
      Hex.Spells cs bytes →
        (∀ outcome ∈ (v.typeChars cs).1, ∃ edit, outcome = .ok edit) ∧
        (v.typeChars cs).2.caret = 2 * (p + bytes.length) ∧
        ∃ new : Bytes, (v.typeChars cs).2.source = some (.inl { m with bytes := new }) ∧
          new.size = m.bytes.size ∧
          (∀ j < bytes.length, new[v.grid.flip (p + j)]? = bytes[j]?) ∧
          ∀ i, (∀ j < bytes.length, v.grid.flip (p + j) ≠ i) → new[i]? = m.bytes[i]?) ∧
    (∀ (u : View (AnySource τ)) s bytes now, u.Reachable AnySource.Drifts → u.source = some s →
      s.bytes? = some bytes →
      s.Addressable → u.grid.shownBytes = bytes.size → u.layout = v.layout →
        bytes.size = m.bytes.size → v.caret = 0 →
      2 * m.bytes.size ≤ v.selection.limit →
        (v.typeText (u.render now).1.hexText).2.source =
        some (.inl { m with bytes := bytes })) := by
  have hready : v.Ready m := ⟨hs, (hv.atHand _ hs rfl).1, henabled, hpane, heditable, hsize⟩
  have hl := hv.valid.layout
  refine ⟨?_, ?_⟩
  · intro p bytes cs hcaret hfits hlimit hspells
    obtain ⟨houtcomes, htyped⟩ := hready.typeChars hl hcaret hfits hlimit hspells
    refine ⟨houtcomes, htyped.caret, _, htyped.ready.source, Bytes.size_scatter _ _ _ _, ?_, ?_⟩
    · intro j hj
      exact Bytes.getElem?_scatter _ (fun q r => Grid.flip_inj hl) hj (hready.flip_lt hl (by omega))
    · intro i hi
      exact Bytes.getElem?_scatter_of_ne _ hi
  · intro u s bytes now hu hus hb haddressable hall hlayout hsame hcaret hlimit
    have htext := hexText_render hu hus hb haddressable hall now
    have hflip : u.grid.flip = v.grid.flip := by
      have hlength : u.length = v.length := by
        rw [View.length, hus, hready.length_eq, ← hsame]
        exact AnySource.length_eq hb
      exact funext (Grid.flip_congr hlayout hlength)
    rw [Grid.drawn, hflip, ← Grid.drawn] at htext
    exact hready.typeText_drawn hl hcaret hsame hlimit htext

/-- Three bytes in a column that is drawn in reverse: two of them overwritten, and all of them typed
from another view. -/
theorem typeChars_reversed :
    let layout : Layout := { bytesPerColumn := 4, flipBytes := true }
    let m : Memory := { bytes := #[1, 2, 3], editable := true }
    let v : View (AnySource Scripted) :=
      (Call.install (.inl m)).apply ((Call.setLayout layout).apply {})
    let u : View (AnySource Scripted) :=
      (Call.install (.inl { bytes := #[7, 8, 9] })).apply ((Call.setLayout layout).apply {})
    ((v.typeChars ['a', 'B', '0', 'c']).2.caret = 4 ∧
      ∃ new : Bytes, (v.typeChars ['a', 'B', '0', 'c']).2.source =
        some (.inl { m with bytes := new }) ∧
        new[2]? = some 0xAB ∧ new[1]? = some 0x0C ∧ new[0]? = some 1) ∧
      (v.typeText (u.render 0).1.hexText).2.source =
      some (.inl { m with bytes := #[7, 8, 9] }) := by
  intro layout m v u
  have hv : v.Reachable AnySource.Drifts := (Reachable.new.call _).call _
  have hu : u.Reachable AnySource.Drifts := (Reachable.new.call _).call _
  have h := typeChars_spells hv (m := m) rfl rfl (by decide) (by decide) (by decide)
  obtain ⟨-, hcaret, new, hsource, -, hnew, hrest⟩ :=
    h.1 0 [0xAB, 0x0C] ['a', 'B', '0', 'c'] (by decide) (by decide)
    (by decide) (by decide)
  have hflip : v.grid.flip 0 = 2 ∧ v.grid.flip 1 = 1 := by decide
  refine ⟨⟨hcaret, new, hsource, hflip.1 ▸ hnew 0 (by decide), hflip.2 ▸ hnew 1 (by decide),
    hrest 0 (by decide)⟩, ?_⟩
  exact h.2 u _ #[7, 8, 9] 0 hu rfl rfl nofun (by decide) rfl rfl (by decide) (by decide)

/-- A memory that has become longer since the view last took note of it: the caret stops at the old
end, and the third digit and the fourth go to the same half of a byte. -/
theorem typeChars_overtaken :
    let m : Memory := { bytes := #[0], editable := true }
    let longer := m.replace #[0, 0, 0, 0]
    let installed : View (AnySource Scripted) := (Call.install (.inl m)).apply {}
    let v : View (AnySource Scripted) := { installed with source := some (.inl longer) }
    v.Reachable AnySource.Drifts ∧ v.enabled = true ∧ v.activePane = .hex ∧ v.selection.length = 0 ∧
      v.caret = 0 ∧
      Hex.Spells ['a', 'a', 'b', 'b'] [0xAA, 0xBB] ∧
      (v.typeChars ['a', 'a', 'b', 'b']).2.caret = 2 ∧
      (v.typeChars ['a', 'a', 'b', 'b']).2.source =
      some (.inl { longer with bytes := #[0xAA, 0xB0, 0, 0] }) := by
  intro m longer installed v
  have hv : v.Reachable AnySource.Drifts := .outside (.call .new _) rfl rfl
  exact ⟨hv, rfl, rfl, rfl, rfl, by decide, by decide +kernel, by decide +kernel⟩

end View

end HexEditor
