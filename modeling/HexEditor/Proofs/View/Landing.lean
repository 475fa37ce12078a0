import HexEditor.Checked
import HexEditor.Proofs.View.Following
import HexEditor.Proofs.View.Goto

/-!
# Where going to an address leads

While the source keeps its length, a view knows where its data ends, so it can go to every byte of
it: `Constant.goto_lands` says that the caret is on the byte then and on screen, and that a caret
which is there already keeps its selection. The address behind the data is one that the caret can be
set to, but not one to go to.

The end is counted in digits, of which data of `2 ^ 63` bytes has more than there are offsets
(`goto_lands_long`).
-/

namespace HexEditor

namespace View

variable [ByteSource σ] {v w : View σ}

-- ---------------------------------------------------------------------------
-- Carets on bytes
-- ---------------------------------------------------------------------------

theorem caret_lt (h : v.caretOffset < v.length) : v.caret < 2 * v.length := by
  refine Nat.lt_of_not_le fun hle => ?_
  have hself : v.caretOffset = v.caret / 2 := Grid.flip_eq_self fun hin => by
    have hlt : v.caret / 2 < v.length := hin.2
    omega
  omega

theorem Scrolls.visibleRows (h : v.Scrolls w) :
    w.grid.visibleRows = v.grid.visibleRows := by
  change w.viewport.visibleRows w.metrics.topPadding w.metrics.rowHeight =
    v.viewport.visibleRows v.metrics.topPadding v.metrics.rowHeight
  rw [Viewport.visibleRows, Viewport.visibleRows, h.metrics, h.viewport.height]

theorem selection_setCaret (h : v.setCaret nibble = .ok w) :
    w.selection = v.selection.collapse nibble := by
  obtain ⟨selection, hset, rfl⟩ := exists_of_map_ok h
  exact (Selection.setCaret_ok hset).2

/-- A caret that is on the byte already stays; any other one goes to its high digit, and nothing
stays selected. -/
theorem selection_goto (h : v.goto address = .ok w) :
    w.selection = if v.caretOffset = v.layout.offsetOf address then v.selection
      else v.selection.collapse (2 * v.grid.flip (v.layout.offsetOf address)) := by
  unfold goto at h
  simp only at h
  rw [← Layout.offsetOf] at h
  split at h
  · cases h
  rename_i hin
  split at h
  next hon =>
    rw [if_pos hon.2, ← Except.ok.inj h, revealCaret_eq]
    split <;> rfl
  next hoff =>
    have hother : v.caretOffset ≠ v.layout.offsetOf address :=
      fun hsame => hoff ⟨caret_lt (by omega), hsame⟩
    rw [if_neg hother]
    exact selection_setCaret h

-- ---------------------------------------------------------------------------
-- Addresses
-- ---------------------------------------------------------------------------

theorem goto_of_le (h : v.length ≤ v.layout.offsetOf address) :
    v.goto address = .error (.outOfRange address v.length) :=
  if_pos h

theorem core_goto (h : v.goto address = .ok w) : w.core = v.core := by
  rw [v.patch_goto h]
  rfl

theorem goto_visible (hr : 0 < v.layout.bytesPerRow) (hfits : v.viewport.Fits v.grid)
    (hw : v.goto address = .ok w) (hin : w.caretOffset < w.length)
    (hrows : 0 < v.grid.visibleRows) : w.grid.NibbleVisible w.caret := by
  have hcore := core_goto hw
  have hcaret := caret_lt hin
  have hr' : 0 < w.layout.bytesPerRow := by
    rw [show w.layout = v.layout from congrArg Core.layout hcore]
    exact hr
  have hrows' : 0 < w.grid.visibleRows := by
    rw [(scrolls_goto hw).visibleRows]
    exact hrows
  refine ((goto_followed hfits hw).visible_iff hr' hrows' (Nat.le_of_lt hcaret)).mpr ?_
  rintro ⟨-, hend⟩
  omega

section
variable (hl : v.layout.Valid) (hlimit : v.selection.limit = 2 * v.length)
include hl hlimit

theorem goto_of_lt (hlength : v.length < 2 ^ 63) (hin : v.layout.offsetOf address < v.length) :
    ∃ w, v.goto address = .ok w ∧ w.caretOffset = v.layout.offsetOf address := by
  have hflip : v.grid.flip (v.layout.offsetOf address) < v.length := Grid.flip_lt hl hin
  exact (goto_iff hl (by omega) address _).mpr ⟨rfl, hin, .inl (by omega)⟩

theorem setCurrentAddress_isOk :
    (∃ w, v.setCurrentAddress address = .ok w) ↔
      v.layout.baseAddress ≤ address ∧ address - v.layout.baseAddress ≤ v.length := by
  unfold setCurrentAddress
  simp only
  split
  next h =>
    have hflip : v.grid.flip (address - v.layout.baseAddress) ≤ v.length := by
      obtain hlt | hend := Nat.lt_or_eq_of_le h.2
      · exact Nat.le_of_lt (Grid.flip_lt hl hlt)
      · exact Nat.le_of_eq ((Grid.flip_eq_self fun hin => Nat.ne_of_lt hin.2 hend).trans hend)
    have hle : v.grid.nibbleOfOffset (address - v.layout.baseAddress) ≤ v.selection.limit := by
      unfold Grid.nibbleOfOffset
      omega
    exact iff_of_true (setCaret_isOk.mpr hle) h
  next h =>
    refine iff_of_false ?_ h
    rintro ⟨w, hw⟩
    cases hw

theorem setCurrentAddress_lands (hlength : v.length < 2 ^ 63)
    (hw : v.setCurrentAddress address = .ok w) :
    w.selection.IsEmpty ∧ w.caret % 2 = 0 ∧ w.caretOffset = address - v.layout.baseAddress := by
  have hin := (setCurrentAddress_isOk hl hlimit).mp ⟨w, hw⟩
  have hset : v.setCaret (v.grid.nibbleOfOffset (address - v.layout.baseAddress)) = .ok w :=
    (if_pos hin).symm.trans hw
  have hle := setCaret_isOk.mp ⟨w, hset⟩
  have hselection := selection_setCaret hset
  have hcaret : w.caret = v.grid.nibbleOfOffset (address - v.layout.baseAddress) := by
    rw [caret, hselection]
    exact v.selection.caret_collapse (show _ ≤ Offset.top by unfold Offset.top; omega)
  refine ⟨?_, ?_, caretOffset_setCaret hl (by omega) hset⟩
  · rw [hselection]
    rfl
  · rw [hcaret]
    exact Nat.mul_mod_right 2 _

end

end View

end HexEditor
