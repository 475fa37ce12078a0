import HexEditor.Proofs.Address.Grammar
import HexEditor.Proofs.Frame.Rows
import HexEditor.Proofs.Grid.Flip
import HexEditor.Proofs.Selection
import HexEditor.Proofs.View.Effect
import HexEditor.Source

/-!
# Going to an address

An address below the base address is taken for an offset. `goto_iff` says where a view goes for an
address.

The addresses in front of the rows can be gone to, up to the end of the address space. They run over
to zero there, and one that did is below the base address. A view whose source has become longer
does not go past the end that it knows of. `goto_label_iff` says that nothing else is in the way.
-/

namespace HexEditor

def Layout.offsetOf (l : Layout) (address : Nat) : Nat :=
  if l.baseAddress ≤ address then address - l.baseAddress else address

theorem Layout.offsetOf_addressOf {l : Layout} (hbase : l.baseAddress < 2 ^ 64)
    (hoffset : offset < 2 ^ 64) :
    l.offsetOf (l.addressOf offset) = offset ↔ l.baseAddress + offset < 2 ^ 64 := by
  unfold offsetOf addressOf Offset.wrapAdd
  split <;> omega

namespace View

variable [ByteSource σ] {v w : View σ}

theorem caretOffset_setCaret (hl : v.layout.Valid) (hlimit : v.selection.limit < 2 ^ 64)
    (h : v.setCaret (v.grid.nibbleOfOffset offset) = .ok w) : w.caretOffset = offset := by
  obtain ⟨selection, hset, rfl⟩ := exists_of_map_ok h
  obtain ⟨hle, rfl⟩ := Selection.setCaret_ok hset
  have hcaret : (v.selection.collapse (v.grid.nibbleOfOffset offset)).caret =
    v.grid.nibbleOfOffset offset :=
    v.selection.caret_collapse
      (show v.grid.nibbleOfOffset offset ≤ Offset.top by unfold Offset.top; omega)
  change v.grid.flip ((v.selection.collapse (v.grid.nibbleOfOffset offset)).caret / 2) = offset
  rw [hcaret, Grid.nibbleOfOffset, Nat.mul_div_cancel_left _ (by decide), Grid.flip_flip hl]

theorem setCaret_isOk : (∃ w, v.setCaret nibble = .ok w) ↔ nibble ≤ v.selection.limit := by
  constructor
  · rintro ⟨w, h⟩
    obtain ⟨selection, hset, -⟩ := exists_of_map_ok h
    exact (Selection.setCaret_ok hset).1
  · intro hle
    have hset : v.selection.setCaret nibble = .ok (v.selection.collapse nibble) :=
      if_neg (Nat.not_lt.mpr hle)
    exact ⟨_, by rw [setCaret, hset]; rfl⟩

theorem caret_on_iff (hl : v.layout.Valid) (hoffset : offset < v.length) :
    v.caret < 2 * v.length ∧ v.caretOffset = offset ↔ v.caret / 2 = v.grid.flip offset := by
  have hflip : v.grid.flip offset < v.length := Grid.flip_lt hl hoffset
  constructor
  · rintro ⟨-, rfl⟩
    exact (Grid.flip_flip hl _).symm
  · intro hcaret
    refine ⟨by omega, ?_⟩
    rw [caretOffset, Grid.offsetOfNibble, hcaret, Grid.flip_flip hl]

theorem caretOffset_revealCaret (v : View σ) : v.revealCaret.caretOffset = v.caretOffset := by
  rw [revealCaret_eq]
  split <;> rfl

/-- A view goes to the addresses of the data that it knows of, and to the one where it is. The caret
is on the byte then. -/
theorem goto_iff (hl : v.layout.Valid) (hlimit : v.selection.limit < 2 ^ 64)
    (address offset : Nat) :
    (∃ w, v.goto address = .ok w ∧ w.caretOffset = offset) ↔
      v.layout.offsetOf address = offset ∧ offset < v.length ∧
        (2 * v.grid.flip offset ≤ v.selection.limit ∨ v.caret / 2 = v.grid.flip offset) := by
  unfold goto
  simp only
  rw [← Layout.offsetOf]
  generalize v.layout.offsetOf address = target
  split
  next hend => simp [show ¬ (target = offset ∧ offset < v.length) by omega, ← and_assoc]
  split
  next hin hon =>
    have hcaret := (caret_on_iff hl (by omega)).mp hon
    simp only [Except.ok.injEq, exists_eq_left', caretOffset_revealCaret, hon.2]
    constructor
    · rintro rfl
      exact ⟨rfl, by omega, .inr hcaret⟩
    · exact fun h => h.1
  next hin hoff =>
    have hcaret : v.caret / 2 ≠ v.grid.flip target := mt (caret_on_iff hl (by omega)).mpr hoff
    constructor
    · rintro ⟨w, hw, rfl⟩
      have hle := setCaret_isOk.mp ⟨w, hw⟩
      rw [caretOffset_setCaret hl hlimit hw]
      exact ⟨rfl, by omega, .inl hle⟩
    · rintro ⟨rfl, -, hle | hsame⟩
      · obtain ⟨w, hw⟩ := setCaret_isOk.mpr hle
        exact ⟨w, hw, caretOffset_setCaret hl hlimit hw⟩
      · exact absurd hsame hcaret

-- ---------------------------------------------------------------------------
-- Labels
-- ---------------------------------------------------------------------------

theorem label_of_render (h : (v.render now).1.offsets[r]? = some label) :
    v.grid.rowStart r < v.length ∧ label.text = v.layout.formatAddress (v.grid.rowStart r) := by
  change v.grid.labels[r]? = some label at h
  rw [Grid.labels_getElem?] at h
  split at h
  next hrow =>
    cases h
    exact ⟨hrow.2, rfl⟩
  next => cases h

/-- A frame that was drawn changes neither what the caret is on nor what is known of the data. -/
theorem goto_iff_of_render (hl : v.layout.Valid) (hs : v.source = some s)
    (hasking : ∀ (s : σ) r, ByteSource.length (Probe.request s r).2 = ByteSource.length s)
    (hlimit : v.selection.limit < 2 ^ 64) (now address offset : Nat) :
    (∃ w, (v.render now).2.goto address = .ok w ∧ w.caretOffset = offset) ↔
      v.layout.offsetOf address = offset ∧ offset < v.length ∧
        (2 * v.grid.flip offset ≤ v.selection.limit ∨ v.caret / 2 = v.grid.flip offset) := by
  have hlength : (v.render now).2.length = v.length := by
    rw [v.render_view hs, length, length, hs]
    exact Poller.fetch_source (P := fun t => ByteSource.length t = ByteSource.length s)
      (fun t r ht => (hasking t r).trans ht) _ _ _ rfl
  have hcore : (v.render now).2.layout = v.layout ∧ (v.render now).2.selection = v.selection := by
    rw [v.render_view hs]
    exact ⟨rfl, rfl⟩
  have hflip : (v.render now).2.grid.flip offset = v.grid.flip offset :=
    Grid.flip_congr hcore.1 hlength offset
  rw [goto_iff (hcore.1 ▸ hl) (hcore.2 ▸ hlimit), hlength, hflip, caret, hcore.1, hcore.2]
  rfl

/-- What is written in front of a row reads as the address of the row. The view goes there, to the
first byte of the row, if and only if the address has not run over and the view knows of the byte,
or is on it already. -/
theorem goto_label_iff {Outside : σ → σ → Prop} (hv : v.Reachable Outside) (hs : v.source = some s)
    (hasking : ∀ (s : σ) r, ByteSource.length (Probe.request s r).2 = ByteSource.length s)
    (hlength : v.length < 2 ^ 64) (hbase : v.layout.baseAddress < 2 ^ 64)
    (hlimit : v.selection.limit < 2 ^ 64) (hlabel : (v.render now).1.offsets[r]? = some label) :
    let offset := v.grid.firstByte + r * v.layout.bytesPerRow
    let address := (v.layout.baseAddress + offset) % 2 ^ 64
    Address.parse? label.text = some address ∧
      ((∃ w, (v.render now).2.goto address = .ok w ∧ w.caretOffset = offset) ↔
        v.layout.baseAddress + offset < 2 ^ 64 ∧
          (2 * v.grid.flip offset ≤ v.selection.limit ∨ v.caret / 2 = v.grid.flip offset)) := by
  intro offset address
  obtain ⟨hoffset, htext⟩ : offset < v.length ∧ label.text = v.layout.formatAddress offset :=
    label_of_render hlabel
  constructor
  · rw [htext]
    exact Address.parse?_format _ (Nat.mod_lt _ (by decide))
  · rw [goto_iff_of_render hv.valid.layout hs hasking hlimit,
      ← Layout.offsetOf_addressOf hbase (show offset < 2 ^ 64 by omega)]
    simp only [hoffset, true_and]
    rfl

/-- The last row of the address space, with columns in reverse. -/
theorem goto_label_top :
    let v : View Memory := (Call.setFlipBytes true).apply
      ((Call.setBaseAddress (2 ^ 64 - 32)).apply ((Call.resize 640 480).apply
        ((Call.install { bytes := Array.replicate 32 0 }).apply {})))
    Address.parse? "FFFFFFFFFFFFFFF0" = some (2 ^ 64 - 16) ∧
      ∃ w, (v.render 0).2.goto (2 ^ 64 - 16) = .ok w ∧ w.caretOffset = 16 := by
  intro v
  have hv : v.Reachable fun _ _ => False := (((Reachable.new.call _).call _).call _).call _
  have hlabel : (v.render 0).1.offsets[1]? = some ⟨"FFFFFFFFFFFFFFF0", 10, 28⟩ := by decide +kernel
  obtain ⟨hparse, hgoto⟩ :=
    goto_label_iff hv rfl (fun _ _ => rfl) (by decide) (by decide) (by decide) hlabel
  exact ⟨hparse, hgoto.mpr (by decide)⟩

/-- The second label has run over: it reads as an address below the base address, and the view goes
to another byte. -/
theorem goto_label_runOver :
    let v : View Memory := (Call.setBaseAddress (2 ^ 64 - 1)).apply ((Call.resize 640 480).apply
      ((Call.install { bytes := Array.replicate 32 0 }).apply {}))
    v.Reachable (fun _ _ => False) ∧ (v.render 0).1.offsets[1]? = some ⟨"0000000F", 10, 28⟩ ∧
      Address.parse? "0000000F" = some 15 ∧
        (v.accept ((v.render 0).2.goto 15)).caretOffset = 15 := by
  intro v
  exact ⟨((Reachable.new.call _).call _).call _, by decide +kernel, by decide +kernel, by decide⟩

end View

end HexEditor
