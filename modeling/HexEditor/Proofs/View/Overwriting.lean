import HexEditor.Proofs.Source.Backed
import HexEditor.Proofs.View.Aligned
import HexEditor.Proofs.View.Atomic
import HexEditor.Proofs.View.Landing
import HexEditor.Proofs.View.Setup

/-!
# Characters that overwrite a byte

A character overwrites the byte that is drawn at the caret, and no other one. `typeChar_overwrites`
says when a view of a memory applies a character, also one whose memory is fetched page by page:
what becomes of the byte, where the caret goes, and what the frames after it show. The typed
character can be seen at its position, and every other position looks as it did before, wherever the
view has been scrolled to meanwhile.

The caret does not pass the end of the data that the view knows of, which is the end of the memory
in an `Informed` view. `typeChar_overtaken` is a view that is not.
-/

namespace HexEditor

-- ---------------------------------------------------------------------------
-- The pane that is typed into
-- ---------------------------------------------------------------------------

/-- Only a press and the toggle change the pane, and not to that of the addresses. -/
theorem Call.activePane_apply [ByteSource σ] (c : Call σ) {v : View σ}
    (h : v.activePane ≠ .offsets) :
    (c.apply v).activePane ≠ .offsets := by
  have hhex : Pane.hex ≠ .offsets := by decide
  have htext : Pane.text ≠ .offsets := by decide
  cases c with
  | togglePane =>
    simp only [apply, View.togglePane]
    split
    · split
      · exact hhex
      · exact htext
    · exact h
  | press x y =>
    by_cases haccepts : v.acceptsInput
    · rw [apply, View.activePane_press haccepts]
      split
      · exact hhex
      · exact htext
      · exact h
    · rwa [apply, View.press, if_neg haccepts]
  | _ => rwa [Call.keeps _ v View.activePane fun _ => rfl]

theorem View.Reachable.activePane [ByteSource σ] {Outside : σ → σ → Prop} {v : View σ}
    (h : v.Reachable Outside) :
    v.activePane = .hex ∨ v.activePane = .text := by
  have hpane : v.activePane ≠ .offsets := by
    induction h with
    | new => exact (by decide : Pane.hex ≠ .offsets)
    | ofSettings h =>
      rw [ofSettings_ok h]
      exact (by decide : Pane.hex ≠ .offsets)
    | call h c ih => exact c.activePane_apply ih
    | outside h hs ho ih => exact ih
  cases hactive : v.activePane with
  | offsets => exact absurd hactive hpane
  | hex => exact .inl rfl
  | text => exact .inr rfl

-- ---------------------------------------------------------------------------
-- The way of the caret
-- ---------------------------------------------------------------------------

namespace View

theorem horizontalStep_cases (v : View σ) : v.horizontalStep = 1 ∨ v.horizontalStep = 2 := by
  unfold horizontalStep
  split
  · exact .inr rfl
  · exact .inl rfl

theorem moveBy_horizontalStep (v : View σ) :
    v.selection.moveBy v.horizontalStep false =
      v.selection.collapse (min (v.caret + v.horizontalStep.toNat) v.selection.limit) := by
  obtain h | h := v.horizontalStep_cases
  · rw [h]
    exact v.selection.moveBy_forward 1
  · rw [h]
    exact v.selection.moveBy_forward 2

theorem caret_step {v : View σ} (h : v.caret < 2 ^ 64 - 2) :
    (v.selection.moveBy v.horizontalStep false).caret =
      min (v.caret + v.horizontalStep.toNat) v.selection.limit := by
  rw [moveBy_horizontalStep]
  refine v.selection.caret_collapse ?_
  have hstep := v.horizontalStep_cases
  unfold Offset.top
  omega

/-- Views that know where the data ends, as the source has kept its length since they last looked. A
view looks when a source is installed, when it is told of a change, and at the tick that finds
one. -/
inductive Informed [ByteSource σ] : View σ → Prop
  | install (v : View σ) (source : σ) : Informed (v.install source)
  | dataChanged (v : View σ) : Informed v.dataChanged
  | tick {v : View σ} (hs : v.source = some s) (hchanged : (ByteSource.takeChange s).1 = true)
      (now : Nat) : Informed (v.tick now)
  | call {v : View σ} (h : Informed v) (c : Call σ) (hsame : (c.apply v).length = v.length) :
      Informed (c.apply v)
  | outside {v : View σ} (h : Informed v) (hs : v.source = some s)
      (hsame : ByteSource.length s' = ByteSource.length s) :
      Informed { v with source := some s' }

theorem Informed.ends [ByteSource σ] {v : View σ} (h : v.Informed) :
    v.selection.EndsAt (2 * v.length) := by
  induction h with
  | install v source => exact v.ends_resetWith (some source)
  | dataChanged v => exact v.ends_dataChanged
  | tick hs hchanged now =>
    obtain ⟨source, poller, events, htick⟩ := tick_of_changed hs hchanged now
    rw [htick]
    exact ends_dataChanged _
  | call _ c hsame ih => exact Call.ends ih hsame
  | outside _ hs hsame ih => exact length_replaced hs hsame ▸ ih

end View

-- ---------------------------------------------------------------------------
-- When a character is applied
-- ---------------------------------------------------------------------------

/-- What a character makes of a byte, with the caret on the nibble `n`: a digit replaces one half of
it, a character in the text pane all of it. -/
def Pane.Overwrites (n : Nat) (c : Char) (old new : UInt8) : Pane → Prop
  | .offsets => False
  | .hex => ∃ d, Hex.value? c = some d ∧
      if n % 2 = 0 then new.toNat / 16 = d ∧ new.toNat % 16 = old.toNat % 16
      else new.toNat / 16 = old.toNat / 16 ∧ new.toNat % 16 = d
  | .text => new.toNat = c.toNat

namespace View

section
variable [ByteSource σ] {v : View σ} {s : σ}

theorem applyChar_ok_iff (hs : v.source = some s) :
    v.applyChar c = .ok (edit, s') ↔
      v.enabled = true ∧ v.poller.status = .defined ∧ ByteSource.editable s = true ∧
        v.caret < 2 * ByteSource.length s ∧
        v.typedByte s v.caretOffset c = .ok edit.value ∧ edit.offset = v.caretOffset ∧
        ByteSource.write s v.caretOffset #[edit.value] = .ok s' := by
  constructor
  · intro h
    rw [applyChar, hs] at h
    simp only at h
    -- The reasons to reject a character, in the order in which they are looked for.
    split at h
    · cases h
    rename_i henabled
    split at h
    · cases h
    rename_i hdefined
    split at h
    · cases h
    rename_i heditable
    split at h
    · cases h
    rename_i hcaret
    split at h
    · cases h
    rename_i htyped
    split at h
    · cases h
    rename_i hwrite
    cases h
    refine ⟨Decidable.not_not.mp henabled, ?_, Decidable.not_not.mp heditable, Nat.not_le.mp hcaret,
      htyped, rfl, hwrite⟩
    cases hstatus : v.poller.status with
    | defined => rfl
    | undefined => exact absurd hstatus hdefined
  · rintro ⟨henabled, hdefined, heditable, hcaret, htyped, hoffset, hwrite⟩
    obtain ⟨offset, value⟩ := edit
    change offset = _ at hoffset
    rw [applyChar, hs, hoffset]
    simp only [henabled, hdefined, heditable, Nat.not_le.mpr hcaret, htyped, hwrite,
      not_true_eq_false, reduceCtorEq, if_false]

theorem typedByte_text_iff (hpane : v.activePane = .text) :
    v.typedByte s offset c = .ok b ↔ 0x20 ≤ c.toNat ∧ c.toNat ≤ 0x7E ∧ b.toNat = c.toNat := by
  have hvalue (h : c.toNat < 256) : c.toNat.toUInt8.toNat = c.toNat := UInt8.toNat_ofNat_of_lt' h
  rw [typedByte, if_pos hpane]
  split
  · rename_i hc
    rw [isPrintable_iff, hvalue hc.1] at hc
    rw [Except.ok.injEq, ← UInt8.toNat_inj, hvalue hc.1]
    omega
  · rename_i hc
    simp only [reduceCtorEq, false_iff]
    rintro ⟨hlow, hhigh, -⟩
    rw [isPrintable_iff, hvalue (by omega)] at hc
    omega

theorem typedByte_hex_iff (hpane : v.activePane = .hex) :
    v.typedByte s offset c = .ok b ↔
      ∃ d old, Hex.value? c = some d ∧ ByteSource.read s ⟨offset, 1⟩ = .ok #[old] ∧
        b = setDigit old (v.caret % 2 = 0) d := by
  have hpane : ¬ v.activePane = .text := by
    rw [hpane]
    decide
  cases hdigit : Hex.value? c with
  | none => simp [typedByte, hpane, hdigit]
  | some digit =>
    rw [InPlace.typedByte_of_digit hpane hdigit]
    rcases ByteSource.read s ⟨offset, 1⟩ with e | ⟨⟨_ | ⟨old, _ | ⟨next, rest⟩⟩⟩⟩
    · simp
    · simp
    · simp [eq_comm]
    · simp

end

end View

/-- Characters that can be typed into a pane: digits, or what the text pane can show. -/
def Pane.Accepts (c : Char) : Pane → Prop
  | .offsets => False
  | .hex => (Hex.value? c).isSome = true
  | .text => 0x20 ≤ c.toNat ∧ c.toNat ≤ 0x7E

theorem eq_setDigit_iff {old b : UInt8} (high : Bool) (hd : d < 16) :
    b = setDigit old high d ↔
      if high then b.toNat / 16 = d ∧ b.toNat % 16 = old.toNat % 16
      else b.toNat / 16 = old.toNat / 16 ∧ b.toNat % 16 = d := by
  rw [← UInt8.toNat_inj, toNat_setDigit old high hd]
  cases high with
  | true =>
    simp only [if_true]
    omega
  | false =>
    simp only [Bool.false_eq_true, if_false]
    omega

theorem overwrites_hex_iff {old b : UInt8} :
    Pane.hex.Overwrites n c old b ↔ ∃ d, Hex.value? c = some d ∧
      b = setDigit old (n % 2 = 0) d := by
  refine exists_congr fun d => and_congr_right fun hd => ?_
  rw [eq_setDigit_iff _ (Hex.lt_of_value? hd)]
  simp only [decide_eq_true_eq]

theorem Pane.Accepts.exists_overwrites {pane : Pane} (h : pane.Accepts c) (n : Nat) (old : UInt8) :
    ∃ b, pane.Overwrites n c old b := by
  cases pane with
  | offsets => exact h.elim
  | hex =>
    obtain ⟨d, hd⟩ := Option.isSome_iff_exists.mp h
    exact ⟨_, overwrites_hex_iff.mpr ⟨d, hd, rfl⟩⟩
  | text =>
    have hc : 32 ≤ c.toNat ∧ c.toNat ≤ 126 := h
    exact ⟨c.toNat.toUInt8, UInt8.toNat_ofNat_of_lt' (show c.toNat < 256 by omega)⟩

namespace View

variable {v : View (AnySource (Paged Memory ⊕ τ))} {s : AnySource (Paged Memory ⊕ τ)} {m : Memory}

/-- The bytes of the memory behind the source. -/
def content? (v : View (AnySource (Paged Memory ⊕ τ))) : Option Bytes :=
  v.source.bind AnySource.content?

theorem content?_of_memory? (hs : v.source = some s) (hm : s.memory? = some m) :
    v.content? = some m.bytes := by
  rw [content?, hs]
  exact AnySource.content?_of_memory? hm

variable [ByteSource τ]

theorem typedByte_memory_iff (hpane : v.activePane = .hex ∨ v.activePane = .text)
    (hm : s.memory? = some m) (hsize : m.bytes.size < 2 ^ 63) (hold : m.bytes[offset]? = some old) :
    v.typedByte s offset c = .ok b ↔
      v.activePane.Accepts c ∧ (v.activePane = .hex → s.HasPage offset) ∧
        v.activePane.Overwrites v.caret c old b := by
  rcases hpane with hpane | hpane
  · simp only [typedByte_hex_iff hpane, AnySource.read_byte_iff hm hold hsize]
    rw [hpane, overwrites_hex_iff]
    constructor
    · rintro ⟨d, _, hd, ⟨hpage, hread⟩, rfl⟩
      cases hread
      exact ⟨Option.isSome_iff_exists.mpr ⟨d, hd⟩, fun _ => hpage, d, hd, rfl⟩
    · rintro ⟨-, hpage, d, hd, rfl⟩
      exact ⟨d, old, hd, ⟨hpage rfl, rfl⟩, rfl⟩
  · simp only [typedByte_text_iff hpane, hpane, Pane.Accepts, Pane.Overwrites, and_assoc,
      reduceCtorEq, false_implies, true_and]

theorem typeChar_ok_iff : (v.typeChar c).1 = .ok edit ↔ ∃ s', v.applyChar c = .ok (edit, s') := by
  rw [typeChar]
  cases v.applyChar c with
  | error reason => simp
  | ok outcome =>
    obtain ⟨edit', s'⟩ := outcome
    simp

theorem typeChar_of_applied (h : v.applyChar c = .ok (edit, s')) :
    (v.typeChar c).2.source = some s' ∧
    (v.typeChar c).2.selection = v.selection.moveBy v.horizontalStep false ∧
      (v.typeChar c).2.layout = v.layout := by
  rw [typeChar, h]
  exact ⟨rfl, rfl, rfl⟩

theorem length_of_content? (h : v.content? = some bytes) : v.length = bytes.size := by
  obtain ⟨s, hs, hbytes⟩ := Option.bind_eq_some_iff.mp h
  rw [View.length, hs]
  exact AnySource.length_of_content? hbytes

theorem offset_lt (hv : v.Reachable Outside) (h : v.content? = some bytes)
    (hcaret : v.caret < 2 * bytes.size) :
    v.grid.flip (v.caret / 2) < bytes.size := by
  have hlength : v.grid.length = bytes.size := length_of_content? h
  rw [← hlength] at hcaret ⊢
  exact Grid.flip_lt hv.valid.layout (by omega)

/-- A character is applied if nothing speaks against it, and then overwrites the byte that is drawn
at the caret. -/
theorem applyChar_memory_iff (hv : v.Reachable Outside) (hs : v.source = some s)
    (hm : s.memory? = some m) (hsize : m.bytes.size < 2 ^ 63) :
    v.applyChar c = .ok (edit, s') ↔
      (v.enabled = true ∧ v.poller.status = .defined ∧ m.editable = true ∧
        v.caret < 2 * m.bytes.size ∧
        v.activePane.Accepts c ∧ (v.activePane = .hex → s.HasPage (v.grid.flip (v.caret / 2)))) ∧
      edit.offset = v.grid.flip (v.caret / 2) ∧
      (∃ old, m.bytes[edit.offset]? = some old ∧ v.activePane.Overwrites v.caret c old edit.value) ∧
      s' = s.withBytes (m.bytes.overwrite edit.offset #[edit.value]) := by
  have hflip : v.caretOffset = v.grid.flip (v.caret / 2) := rfl
  rw [applyChar_ok_iff hs, AnySource.editable_of_memory? hm,
    AnySource.length_of_content? (AnySource.content?_of_memory? hm), hflip]
  constructor
  · rintro ⟨henabled, hdefined, heditable, hcaret, htyped, hoffset, hwrite⟩
    have hlt := offset_lt hv (content?_of_memory? hs hm) hcaret
    have hold := Array.getElem?_eq_getElem hlt
    obtain ⟨haccepts, hpage, hover⟩ := (typedByte_memory_iff hv.activePane hm hsize hold).mp htyped
    rw [AnySource.write_byte_of_memory? hm heditable hlt] at hwrite
    rw [hoffset]
    exact ⟨⟨henabled, hdefined, heditable, hcaret, haccepts, hpage⟩, rfl, ⟨_, hold, hover⟩,
      (Except.ok.inj hwrite).symm⟩
  · rintro ⟨⟨henabled, hdefined, heditable, hcaret, haccepts, hpage⟩, hoffset,
      ⟨old, hold, hover⟩, rfl⟩
    rw [hoffset] at hold ⊢
    have hlt := (Array.getElem?_eq_some_iff.mp hold).choose
    exact ⟨henabled, hdefined, heditable, hcaret,
      (typedByte_memory_iff hv.activePane hm hsize hold).mpr
      ⟨haccepts, hpage, hover⟩, rfl, AnySource.write_byte_of_memory? hm heditable hlt _⟩

-- ---------------------------------------------------------------------------
-- Frames of the same bytes
-- ---------------------------------------------------------------------------

theorem data_of_fetch {p : Poller} (hbytes : s.content? = some bytes)
    (h : (p.fetch s r now).1 = some data) :
    data = bytes.extract r.offset (r.offset + r.length) := by
  rw [Poller.fetch_eq] at h
  split at h
  · cases h
  split at h
  · rename_i hempty
    cases h
    rw [show r.length = 0 from hempty, Nat.add_zero,
      Array.extract_empty_of_stop_le_start (Nat.le_refl _)]
  split at h
  · split at h
    · rename_i hread
      cases h
      exact AnySource.read_of_content? ((AnySource.content?_request s r).trans hbytes) hread
    · cases h
  · cases h

theorem render_defined (hcontent : v.content? = some bytes)
    (hdefined : (v.render now).1.status = .defined) :
    (v.render now).1 =
      (v.scene (some (bytes.extract v.grid.firstByte
        (v.grid.firstByte + v.grid.shownBytes)))).compose := by
  obtain ⟨s, hs, hbytes⟩ := Option.bind_eq_some_iff.mp hcontent
  have hframe : (v.render now).1 = (v.scene (v.fetch now).1).compose := rfl
  have hfetch : (v.fetch now).1 = (v.poller.fetch s v.visibleRange now).1 := by rw [fetch, hs]
  rw [hframe] at hdefined ⊢
  cases hdata : (v.fetch now).1 with
  | none =>
    rw [hdata] at hdefined
    cases hdefined
  | some data =>
    rw [data_of_fetch hbytes (hfetch.symm.trans hdata)]
    rfl

/-- Which byte is shown at a position is told by the layout and the number of bytes, wherever the
view is scrolled to. -/
theorem writes_of_render {g : Grid} (hl : g.layout.Valid) (hlayout : v.layout = g.layout)
    (hlength : g.length = bytes.size) (hcontent : v.content? = some bytes)
    (hdefined : (v.render now).1.status = .defined) (hc : cell ∈ (v.render now).1.cells) :
    ∃ b, bytes[g.flip cell.position]? = some b ∧ cell.pane.Writes b cell.text := by
  rw [render_defined hcontent hdefined] at hc
  have hsize : v.grid.length = bytes.size := length_of_content? hcontent
  have hflip : v.grid.flip cell.position = g.flip cell.position :=
    Grid.flip_congr hlayout (hsize.trans hlength.symm) cell.position
  have hoffset : cell.offset = g.flip cell.position := by
    rw [← hflip]
    obtain ⟨i, -, rfl | rfl⟩ := Scene.mem_cells.mp hc <;> rfl
  rw [← hoffset]
  exact Scene.cell_writes (s := v.scene _) (show v.layout.Valid from hlayout ▸ hl) hsize rfl hc

/-- Once a byte has been overwritten its position shows the new one, and every other position what
it has shown before. -/
theorem writes_of_overwritten {g : Grid} {bytes : Bytes} (hl : g.layout.Valid)
    (hlayout : v.layout = g.layout) (hlength : g.length = bytes.size)
    (hcontent : v.content? = some (bytes.overwrite (g.flip p) #[b]))
    (hdefined : (v.render now).1.status = .defined) (hc : cell ∈ (v.render now).1.cells) :
    if cell.position = p then cell.pane.Writes b cell.text
    else ∃ kept, bytes[g.flip cell.position]? = some kept ∧ cell.pane.Writes kept cell.text := by
  obtain ⟨shown, hshown, htext⟩ :=
    writes_of_render hl hlayout (hlength.trans (Bytes.size_overwrite _ _ _).symm) hcontent
      hdefined hc
  rw [Bytes.getElem?_overwrite] at hshown
  split
  · rename_i hposition
    rw [hposition, if_pos rfl] at hshown
    obtain ⟨-, -, rfl⟩ := Option.map_eq_some_iff.mp hshown
    exact htext
  · rename_i hposition
    rw [if_neg fun heq => hposition (Grid.flip_inj hl heq)] at hshown
    exact ⟨shown, hshown, htext⟩

end View

-- ---------------------------------------------------------------------------
-- Calls between two frames
-- ---------------------------------------------------------------------------

/-- Calls that neither edit or replace the bytes nor arrange them anew. -/
def Call.KeepsBytes : Call σ → Prop
  | .install _ | .uninstall | .typeChar _ => False
  | .setLayout _ | .setBytesPerRow _ | .setBytesPerColumn _ | .setColumnSpacing _
  | .setAddressWidth _ | .setFlipBytes _
  | .setBaseAddress _ => False
  | _ => True

theorem View.source_tick [ByteSource σ] {v : View σ} (hs : v.source = some s) (now : Nat) :
    (v.tick now).source = some (v.poller.tick (ByteSource.takeChange s).2 now).2.2 := by
  have hnoted (changed : Bool) (w : View σ) :
      (if changed then w.dataChanged else w).source = w.source := by
    split
    · exact congrArg Core.source w.core_dataChanged
    · rfl
  rw [v.tick_eq hs]
  simp only
  split <;> exact hnoted _ _

namespace View

section
variable {v w : View (AnySource (Paged Memory ⊕ τ))} {s s' : AnySource (Paged Memory ⊕ τ)}

theorem content?_asked (hs : v.source = some s) (hw : w.source = some s')
    (h : s'.content? = s.content?) :
    w.content? = v.content? := by
  rw [content?, content?, hs, hw]
  exact h

end

variable [ByteSource τ] {v w : View (AnySource (Paged Memory ⊕ τ))}

theorem content?_render (now : Nat) : (v.render now).2.content? = v.content? := by
  cases hs : v.source with
  | none => rw [render, fetch, hs]
  | some s =>
    refine content?_asked hs (congrArg View.source (v.render_view hs now)) ?_
    exact Poller.fetch_source (P := (AnySource.content? · = s.content?))
      (fun t r => (t.content?_request r).trans) _ _ _ rfl

theorem content?_pollNow (now : Nat) : (v.pollNow now).content? = v.content? := by
  cases hs : v.source with
  | none => rw [pollNow, hs]
  | some s =>
    refine content?_asked hs (congrArg View.source (v.pollNow_eq hs now)) ?_
    exact Poller.pollNow_probe (P := (AnySource.content? · = s.content?))
      (fun t r => (t.content?_request r).trans) _ _ rfl

theorem content?_tick (now : Nat) : (v.tick now).content? = v.content? := by
  cases hs : v.source with
  | none => rw [tick, hs]
  | some s =>
    refine content?_asked hs (source_tick hs now) ?_
    exact Poller.tick_probe (P := (AnySource.content? · = s.content?))
      (fun t r => (t.content?_request r).trans) _ _
      s.content?_takeChange

theorem content?_apply {c : Call (AnySource (Paged Memory ⊕ τ))} (hc : c.KeepsBytes)
    (v : View (AnySource (Paged Memory ⊕ τ))) :
    (c.apply v).content? = v.content? := by
  cases c with
  | install | uninstall | typeChar => exact hc.elim
  | render now => exact content?_render now
  | tick now => exact content?_tick now
  | pollNow now => exact content?_pollNow now
  | _ => exact Call.keeps _ v content? fun _ => rfl

theorem layout_apply {c : Call (AnySource (Paged Memory ⊕ τ))} (hc : c.KeepsBytes)
    (v : View (AnySource (Paged Memory ⊕ τ))) :
    (c.apply v).layout = v.layout := by
  cases c with
  | setLayout | setBytesPerRow | setBytesPerColumn | setColumnSpacing | setAddressWidth
  | setFlipBytes | setBaseAddress =>
    exact hc.elim
  | _ => exact Call.keeps _ v View.layout fun _ => rfl

/-- What becomes of a view while its bytes stay what they are and where they are. Pages may arrive
meanwhile, and the remote end may be lost. -/
inductive Unedited (u : View (AnySource (Paged Memory ⊕ τ))) :
    View (AnySource (Paged Memory ⊕ τ)) → Prop
  | refl : Unedited u u
  | call {v : View (AnySource (Paged Memory ⊕ τ))} {c : Call (AnySource (Paged Memory ⊕ τ))}
      (h : Unedited u v) (hc : c.KeepsBytes) : Unedited u (c.apply v)
  | outside {v : View (AnySource (Paged Memory ⊕ τ))} {s s' : AnySource (Paged Memory ⊕ τ)}
      (h : Unedited u v) (hs : v.source = some s) (ho : s'.content? = s.content?) :
      Unedited u { v with source := some s' }

theorem Unedited.same {u : View (AnySource (Paged Memory ⊕ τ))} (h : u.Unedited v) :
    v.layout = u.layout ∧ v.content? = u.content? := by
  induction h with
  | refl => exact ⟨rfl, rfl⟩
  | @call v c _ hc ih => exact ⟨(layout_apply hc v).trans ih.1, (content?_apply hc v).trans ih.2⟩
  | outside _ hs ho ih => exact ⟨ih.1, (content?_asked hs rfl ho).trans ih.2⟩

end View

/-- A text on which a character can be seen: a digit where the caret was, or the character
itself. -/
def Pane.Displays (n : Nat) (c : Char) (text : String) : Pane → Prop
  | .offsets => False
  | .hex => text.toList[n % 2]? = some c.toUpper
  | .text => text = String.singleton c

theorem Pane.Writes.unique {pane : Pane} {t t' : String} (h : pane.Writes b t)
    (h' : pane.Writes b t') : t' = t := by
  cases pane with
  | offsets => exact h.elim
  | hex =>
    obtain ⟨high, low, hhigh, hlow, rfl⟩ := h
    obtain ⟨high', low', hhigh', hlow', rfl⟩ := h'
    cases hhigh.symm.trans hhigh'
    cases hlow.symm.trans hlow'
    rfl
  | text => exact h'.trans h.symm

theorem Pane.Overwrites.displays {pane : Pane} {t : String} (h : pane.Overwrites n c old b)
    (haccepts : pane.Accepts c) (hwrites : pane.Writes b t) : pane.Displays n c t := by
  cases pane with
  | offsets => exact h.elim
  | hex =>
    obtain ⟨d, hd, hhalves⟩ := h
    obtain rfl := Pane.Writes.unique (writes_byte b) hwrites
    change (String.ofList [_, _]).toList[n % 2]? = _
    rw [String.toList_ofList, ← Hex.digit_of_value? hd]
    split at hhalves
    · rename_i heven
      rw [heven, hhalves.1]
      rfl
    · rename_i hodd
      rw [show n % 2 = 1 by omega, hhalves.2]
      rfl
  | text =>
    have hb : b.toNat = c.toNat := h
    have hc : 32 ≤ c.toNat ∧ c.toNat ≤ 126 := haccepts
    change _ = if _ then _ else _ at hwrites
    rw [hb, if_pos hc, Char.ofNat_toNat] at hwrites
    exact hwrites

namespace View

variable [ByteSource τ] {v : View (AnySource (Paged Memory ⊕ τ))} {s : AnySource (Paged Memory ⊕ τ)}
  {m : Memory}

section
variable (hv : v.Reachable Outside) (hs : v.source = some s) (hm : s.memory? = some m)
  (hsize : m.bytes.size < 2 ^ 63)
include hv hs hm hsize

theorem typeChar_isOk_iff :
    (∃ edit, (v.typeChar c).1 = .ok edit) ↔
      v.enabled = true ∧ v.poller.status = .defined ∧ m.editable = true ∧
        v.caret < 2 * m.bytes.size ∧
        v.activePane.Accepts c ∧ (v.activePane = .hex → s.HasPage (v.grid.flip (v.caret / 2))) := by
  constructor
  · rintro ⟨edit, hok⟩
    obtain ⟨s', happly⟩ := typeChar_ok_iff.mp hok
    exact ((applyChar_memory_iff hv hs hm hsize).mp happly).1
  · intro h
    have hcaret : v.caret < 2 * m.bytes.size := h.2.2.2.1
    have haccepts : v.activePane.Accepts c := h.2.2.2.2.1
    have hlt := offset_lt hv (content?_of_memory? hs hm) hcaret
    obtain ⟨b, hb⟩ := haccepts.exists_overwrites v.caret m.bytes[v.grid.flip (v.caret / 2)]
    let new := m.bytes.overwrite (v.grid.flip (v.caret / 2)) #[b]
    have happly : v.applyChar c = .ok (⟨v.grid.flip (v.caret / 2), b⟩, s.withBytes new) :=
      (applyChar_memory_iff hv hs hm hsize).mpr
        ⟨h, rfl, ⟨_, Array.getElem?_eq_getElem hlt, hb⟩, rfl⟩
    exact ⟨_, typeChar_ok_iff.mpr ⟨_, happly⟩⟩

end

/-- A character is applied exactly when the view is enabled and defined, its memory can be edited,
the caret is on a byte of it and the pane takes the character; a digit also needs the page of the
byte, of which it keeps one half. -/
theorem typeChar_overwrites (hv : v.Reachable Outside) (hs : v.source = some s)
    (hm : s.memory? = some m) (hsize : m.bytes.size < 2 ^ 63) (c : Char) :
    let n := v.caret
    let offset := v.grid.flip (n / 2)
    let typed := (v.typeChar c).2
    ((∃ edit, (v.typeChar c).1 = .ok edit) ↔
      v.enabled = true ∧ v.poller.status = .defined ∧ m.editable = true ∧ n < 2 * m.bytes.size ∧
        v.activePane.Accepts c ∧ (v.activePane = .hex → s.HasPage offset)) ∧
    ∀ edit, (v.typeChar c).1 = .ok edit →
      edit.offset = offset ∧
      (∃ old, m.bytes[offset]? = some old ∧ v.activePane.Overwrites n c old edit.value) ∧
      (∃ new : Bytes, typed.source = some (s.withBytes new) ∧ new.size = m.bytes.size ∧
        new[offset]? = some edit.value ∧ ∀ i, i ≠ offset → new[i]? = m.bytes[i]?) ∧
      typed.selection = ⟨min (n + v.horizontalStep.toNat) v.selection.limit, 0, v.selection.limit⟩ ∧
      typed.caret = min (n + v.horizontalStep.toNat) v.selection.limit ∧
      (v.Informed → v.selection.limit = 2 * m.bytes.size) ∧
      ∀ w now, typed.Unedited w → (w.render now).1.status = .defined →
        (∀ cell ∈ (w.render now).1.cells, cell.position = n / 2 → cell.pane = v.activePane →
          v.activePane.Displays n c cell.text) ∧
        ∀ u before, Unedited u v → (u.render before).1.status = .defined →
          ∀ cell ∈ (w.render now).1.cells, cell.position ≠ n / 2 →
            ∀ cell' ∈ (u.render before).1.cells,
            cell'.pane = cell.pane → cell'.position = cell.position → cell.text = cell'.text := by
  intro n offset typed
  have hl := hv.valid.layout
  have hcontent : v.content? = some m.bytes := content?_of_memory? hs hm
  have hlength : v.grid.length = m.bytes.size := length_of_content? hcontent
  refine ⟨typeChar_isOk_iff hv hs hm hsize, ?_⟩
  intro edit hok
  obtain ⟨s', happly⟩ := typeChar_ok_iff.mp hok
  obtain ⟨⟨-, -, -, hcaret, haccepts, -⟩, hoffset, ⟨old, hold, hover⟩, rfl⟩ :=
    (applyChar_memory_iff hv hs hm hsize).mp happly
  obtain ⟨hsource, hselection, hlayout⟩ := typeChar_of_applied happly
  rw [hoffset] at hold hsource
  have hnew (i : Nat) := m.bytes.getElem?_overwrite offset edit.value i
  refine ⟨hoffset, ⟨old, hold, hover⟩, ⟨_, hsource, Bytes.size_overwrite _ _ _, ?_, fun i hi => ?_⟩,
    ?_, ?_, ?_, ?_⟩
  · rw [hnew, if_pos rfl, hold]
    rfl
  · rw [hnew, if_neg hi]
  · rw [hselection, moveBy_horizontalStep]
    rfl
  · rw [View.caret, hselection]
    exact caret_step (by omega)
  · intro hinformed
    rw [hinformed.ends.limit]
    exact congrArg (2 * ·) hlength
  · intro w now hw hdefined
    have hcontent' : w.content? = some (m.bytes.overwrite offset #[edit.value]) := by
      rw [hw.same.2, View.content?, hsource]
      exact AnySource.content?_withBytes hm _
    have hshown {cell : Cell} (hcell : cell ∈ (w.render now).1.cells) :=
      writes_of_overwritten hl (hw.same.1.trans hlayout) hlength hcontent' hdefined hcell
    constructor
    · intro cell hcell hposition hpane
      have htext := hshown hcell
      rw [if_pos hposition, hpane] at htext
      exact hover.displays haccepts htext
    · intro u before hu hdefined' cell hcell hother cell' hcell' hpane hposition
      obtain ⟨kept, hkept, htext⟩ := (if_neg hother).mp (hshown hcell)
      obtain ⟨b, hb, htext'⟩ :=
        writes_of_render hl hu.same.1.symm hlength (hu.same.2.symm.trans hcontent) hdefined' hcell'
      rw [hposition, hkept] at hb
      cases hb
      exact (hpane ▸ htext').unique htext

theorem typeChar_overwrites_lowDigit :
    let m : Memory := { bytes := #[0x41, 0x42, 0x43], editable := true }
    let s : AnySource (Paged Memory ⊕ Scripted) := .inr (.inr (.inl { inner := m, fetched := [0] }))
    let installed : View (AnySource (Paged Memory ⊕ Scripted)) :=
      (Call.install s).apply ((Call.setLayout { bytesPerColumn := 4, flipBytes := true }).apply
        ((Call.resize 640 28).apply {}))
    let v := (Call.moveRight false).apply installed
    let typed := (v.typeChar 'e').2
    v.caret = 1 ∧ typed.caret = 2 ∧ typed.selection.length = 0 ∧
      (∃ new : Bytes, typed.source = some (s.withBytes new) ∧ new[2]? = some 0x4E ∧
        new[0]? = some 0x41 ∧ new[1]? = some 0x42) ∧
      (typed.render 0).1.status = .defined ∧
      (∃ cell ∈ (typed.render 0).1.cells, cell.position = 0 ∧ cell.pane = .hex) ∧
      ∀ cell ∈ (typed.render 0).1.cells, cell.position = 0 → cell.pane = .hex →
        cell.text.toList[1]? = some 'E' := by
  intro m s installed v typed
  have hv : v.Reachable fun _ _ => False := (((Reachable.new.call _).call _).call _).call _
  have hcaret : v.caret = 1 := by decide
  have hflip : v.grid.flip (v.caret / 2) = 2 := by decide
  have hpage : s.HasPage (v.grid.flip (v.caret / 2)) := List.mem_singleton.mpr (by decide)
  have hdefined : (typed.render 0).1.status = .defined := by decide +kernel
  have hcell : ∃ cell ∈ (typed.render 0).1.cells, cell.position = 0 ∧ cell.pane = .hex := by
    decide +kernel
  obtain ⟨happlied, h⟩ := typeChar_overwrites (s := s) (m := m) hv rfl rfl (by decide) 'e'
  obtain ⟨edit, hok⟩ := happlied.mpr ⟨rfl, by decide, rfl, by decide, rfl, fun _ => hpage⟩
  have hvalue : (v.typeChar 'e').1.toOption.map Edit.value = some 0x4E := by decide +kernel
  rw [hok] at hvalue
  obtain ⟨-, -, ⟨new, hsource, -, hnew, hrest⟩, hselection, hafter, -, hframes⟩ := h edit hok
  have hshown := (hframes typed 0 .refl hdefined).1
  rw [hflip] at hnew hrest
  rw [hcaret] at hshown
  refine ⟨hcaret, hafter.trans (by decide), congrArg Selection.length hselection, ?_, hdefined,
    hcell, hshown⟩
  exact ⟨new, hsource, hnew.trans hvalue, hrest 0 (by decide), hrest 1 (by decide)⟩

/-- A memory that has become longer since the view last looked: the character is applied, but the
caret does not pass the old end. -/
theorem typeChar_overtaken :
    let m : Memory := { bytes := #[0], editable := true }
    let longer := m.replace #[0, 0, 0, 0]
    let installed : View (AnySource (Paged Memory ⊕ Scripted)) := (Call.install (.inl m)).apply {}
    let moved := (Call.moveBy 2 false).apply installed
    let v : View (AnySource (Paged Memory ⊕ Scripted)) :=
      { moved with source := some (.inl longer) }
    v.Reachable AnySource.Drifts ∧ v.caret = 2 ∧ v.horizontalStep = 1 ∧
      (v.typeChar 'b').1.toOption = some ⟨1, 0xB0⟩ ∧
      (v.typeChar 'b').2.caret = 2 ∧
      min (v.caret + v.horizontalStep.toNat) (2 * longer.bytes.size) = 3 := by
  intro m longer installed moved v
  have hv : v.Reachable AnySource.Drifts := .outside (.call (.call .new _) _) rfl rfl
  exact ⟨hv, by decide, by decide, by decide +kernel, by decide +kernel, by decide⟩

end View

end HexEditor
