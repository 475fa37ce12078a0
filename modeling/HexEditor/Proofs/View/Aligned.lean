import HexEditor.Proofs.Grid.Hit
import HexEditor.Proofs.View.Bounds
import HexEditor.Proofs.View.Disabled

/-!
# Whole bytes in the text pane

The text pane works on whole bytes, so its caret belongs on a high digit. Keys, the wheel and typing
see to that. The mouse does not: a press beside the characters turns to the text pane without moving
the caret, and a drag over the hex pane puts it on any digit. `text_caret_even_iff`: in a run of
inputs the caret of the text pane is on a high digit throughout if and only if no press and no drag
of the run is one of these.
-/

namespace HexEditor

namespace Selection

/-- A selection of data that ends with a whole byte. -/
structure Whole (s : Selection) : Prop where
  exact : s.Exact
  limit_lt : s.limit < 2 ^ 63
  limit_even : s.limit % 2 = 0

variable {s t : Selection} (h : s.Whole)
include h

theorem Whole.stays (ht : s.Stays t) : t.Whole :=
  ⟨ht.exact h.exact h.limit_lt, ht.limit ▸ h.limit_lt, ht.limit ▸ h.limit_even⟩

/-- A step of whole bytes, cut short at either end of the data, leads from high digit to high
digit. -/
theorem Whole.caret_moveBy_even {delta : Int} (heven : (s.caret + delta) % 2 = 0) (extend : Bool) :
    (s.moveBy delta extend).caret % 2 = 0 := by
  have hlimit := h.limit_even
  rw [h.exact.caret_moveBy h.limit_lt, clamp]
  omega

end Selection

/-- The inputs that leave the text pane with its caret on a low digit: a press that turns to the
text pane where no byte is, with the caret on a low digit, and a drag that starts in the text pane
and leads over a low digit. -/
def Call.Misplaces [ByteSource σ] (v : View σ) : Call σ → Prop
  | press x y =>
    v.acceptsInput ∧ v.grid.paneAt? x y = some .text ∧ v.caret % 2 = 1 ∧
      ∀ n ∈ v.grid.nibbleAt? x y, v.selection.limit < n
  | drag x y =>
    v.acceptsInput ∧ v.activePane = .text ∧ v.grid.rowTop 0 ≤ y ∧ y < pixels v.viewport.height ∧
      ∃ n ∈ v.grid.nibbleAt? x y, n % 2 = 1 ∧ n < v.selection.limit
  | _ => False

instance [ByteSource σ] (v : View σ) (c : Call σ) : Decidable (c.Misplaces v) := by
  cases c <;> unfold Call.Misplaces <;> infer_instance

namespace View

/-- The caret of the text pane is on a high digit. -/
def Aligned (v : View σ) : Prop :=
  v.activePane = .text → v.caret % 2 = 0

instance (v : View σ) : Decidable v.Aligned :=
  inferInstanceAs (Decidable (_ → _))

-- ---------------------------------------------------------------------------
-- Keys and typing
-- ---------------------------------------------------------------------------

theorem horizontalStep_even {v : View σ} (h : v.activePane = .text) : v.horizontalStep % 2 = 0 := by
  rw [horizontalStep, if_pos h]
  rfl

theorem rows_even (v : View σ) (rows : Int) : rows * v.rowStep % 2 = 0 := by
  rw [rowStep, Int.mul_left_comm]
  omega

theorem Aligned.togglePane {v : View σ} (hs : v.selection.Whole) (h : v.Aligned) :
    v.togglePane.Aligned := by
  unfold View.togglePane
  split
  · split
    · exact nofun
    · intro _
      change (if v.selection.caret % 2 = 1 then v.selection.moveBy (-1) false
        else v.selection).caret % 2 = 0
      split
      next hodd =>
        have heven : ((v.selection.caret : Int) + -1) % 2 = 0 := by omega
        exact hs.caret_moveBy_even heven false
      next hodd => omega
  · exact h

variable [ByteSource σ] {v : View σ}

section
variable (hs : v.selection.Whole) (h : v.Aligned)
include hs h

theorem Aligned.moveBy (heven : v.activePane = .text → delta % 2 = 0) (extend : Bool) :
    (v.moveBy delta extend).Aligned := by
  unfold View.moveBy
  simp only
  split
  · intro htext
    have hcaret : v.selection.caret % 2 = 0 := h htext
    have hdelta := heven htext
    have heven : ((v.selection.caret : Int) + delta) % 2 = 0 := by omega
    exact hs.caret_moveBy_even heven extend
  · exact h

theorem Aligned.typeChar (c : Char) : (v.typeChar c).2.Aligned := by
  unfold View.typeChar
  split
  · exact h
  · intro htext
    have hcaret : v.selection.caret % 2 = 0 := h htext
    have hstep := horizontalStep_even (v := v) htext
    have heven : ((v.selection.caret : Int) + v.horizontalStep) % 2 = 0 := by omega
    exact hs.caret_moveBy_even heven false

end

-- ---------------------------------------------------------------------------
-- The mouse
-- ---------------------------------------------------------------------------

theorem nibble_even_of_text {g : Grid} (hpane : g.paneAt? x y = some .text)
    (hn : g.nibbleAt? x y = some n) :
    n % 2 = 0 := by
  obtain ⟨-, row, k, -, hk, rfl⟩ := Grid.nibbleAt?_parts.mp hn
  have hright : ¬ x < g.textPaneLeft := by
    unfold Grid.paneAt? at hpane
    repeat' split at hpane
    all_goals first | assumption | cases hpane
  rw [(Grid.nibbleIn_half row k).1]
  unfold Grid.rowNibbleAt? at hk
  rw [if_neg hright] at hk
  unfold Grid.textNibbleAt? at hk
  simp only at hk
  repeat' split at hk
  all_goals cases hk
  omega

theorem pane_of_nibble {g : Grid} (hn : g.nibbleAt? x y = some n) :
    g.paneAt? x y = some .hex ∨ g.paneAt? x y = some .text := by
  obtain ⟨-, row, k, hrow, hk, -⟩ := Grid.nibbleAt?_parts.mp hn
  have hbelow : ¬ y < g.rowTop 0 := by
    intro habove
    simp [Grid.rowAt?, habove] at hrow
  have hright : ¬ x < g.hexPaneLeft := by
    intro hleft
    have : x < g.hexPaneLeft + Grid.paddingLeft := by unfold Grid.paddingLeft; omega
    simp [Grid.rowNibbleAt?, this] at hk
  unfold Grid.paneAt?
  rw [if_neg hbelow, if_neg hright]
  split
  · exact .inl rfl
  · exact .inr rfl

/-- Where a press puts the caret: on the byte under the pointer, if there is one within the
limits. -/
theorem caret_press (hs : v.selection.Whole) (haccepts : v.acceptsInput) (x y : Int) :
    (v.press x y).caret = match v.grid.nibbleAt? x y with
      | some n => if n ≤ v.selection.limit then n else v.caret
      | none => v.caret := by
  have hlimit := hs.limit_lt
  -- Without a byte the caret is put where it is, within the limits or not.
  have hset : (v.press x y).caret =
      if (v.grid.nibbleAt? x y).getD v.caret ≤ v.selection.limit then
        (v.grid.nibbleAt? x y).getD v.caret else v.caret := by
    unfold press
    rw [if_pos haccepts]
    simp only
    split
    next selection hset =>
      obtain ⟨hn, rfl⟩ := Selection.setCaret_ok hset
      rw [if_pos hn]
      exact v.selection.caret_collapse (show _ ≤ Offset.top by unfold Offset.top; omega)
    next error hset =>
      refine (if_neg fun hn => ?_).symm
      rw [Selection.setCaret, if_neg (by omega)] at hset
      cases hset
  rw [hset]
  cases v.grid.nibbleAt? x y with
  | none => exact ite_self _
  | some n => rfl

theorem activePane_press (haccepts : v.acceptsInput) (x y : Int) :
    (v.press x y).activePane = match v.grid.paneAt? x y with
      | some .hex => .hex
      | some .text => .text
      | _ => v.activePane := by
  unfold press
  rw [if_pos haccepts]
  rfl

section
variable (hs : v.selection.Whole) (h : v.Aligned)
include hs h

theorem aligned_press_iff (x y : Int) : (v.press x y).Aligned ↔ ¬ (Call.press x y).Misplaces v := by
  by_cases haccepts : v.acceptsInput
  · have hcaret := caret_press hs haccepts x y
    have hactive := activePane_press haccepts x y
    simp only [Aligned, Call.Misplaces, haccepts, true_and, Option.mem_def, hcaret, hactive] at h ⊢
    cases hn : v.grid.nibbleAt? x y with
    | none =>
      split
      next hpane => simp [hpane]
      next hpane => simp [hpane]
      next hhex htext => exact iff_of_true h fun hmisplaced => htext hmisplaced.1
    | some n =>
      have heven : v.grid.paneAt? x y = some .text → n % 2 = 0 :=
        fun hpane => nibble_even_of_text hpane hn
      obtain hpane | hpane := pane_of_nibble hn
      · simp [hpane]
      · have := heven hpane
        simp only [hpane, forall_const, true_and, Option.some.injEq, forall_eq']
        split <;> omega
  · simp only [press, haccepts, Call.Misplaces, Bool.false_eq_true, if_false, false_and,
      not_false_eq_true, iff_true]
    exact h

theorem aligned_drag_iff (x y : Int) : (v.drag x y).Aligned ↔ ¬ (Call.drag x y).Misplaces v := by
  have hrow (rows : Int) : (v.dragRow rows).Aligned := by
    intro htext
    have hcaret : v.selection.caret % 2 = 0 := h htext
    have hstep := v.rows_even rows
    have heven : ((v.selection.caret : Int) + rows * v.rowStep) % 2 = 0 := by omega
    exact hs.caret_moveBy_even heven true
  unfold drag
  split
  next haccepts =>
    split
    next habove => exact iff_of_true (hrow _) (by simp only [Call.Misplaces]; omega)
    split
    next hbelow => exact iff_of_true (hrow _) (by simp only [Call.Misplaces]; omega)
    next habove hbelow =>
      split
      next n hn =>
        have hcaret := hs.exact.caret_extendTo hs.limit_lt n
        have hlimit := hs.limit_even
        have hinside : v.grid.rowTop 0 ≤ y ∧ y < pixels v.viewport.height := by omega
        change (v.activePane = .text → (v.selection.extendTo n).caret % 2 = 0) ↔ _
        simp only [Call.Misplaces, haccepts, hinside, hn, hcaret, Option.mem_def, Option.some.injEq,
          exists_eq_left',
          true_and, not_and]
        refine imp_congr_right fun _ => ?_
        omega
      next hn => exact iff_of_true h (by simp [Call.Misplaces, hn])
  next haccepts => exact iff_of_true h (by simp [Call.Misplaces, haccepts])

theorem aligned_apply_iff {c : Call σ} (hc : c.IsGesture) :
    (c.apply v).Aligned ↔ ¬ c.Misplaces v := by
  have hhorizontal := horizontalStep_even (v := v)
  have hrow := v.rows_even 1
  have hpage := v.rows_even (max v.grid.visibleRows 1 : Nat)
  rw [Int.one_mul] at hrow
  rw [← pageStep] at hpage
  cases c with
  | press x y => exact aligned_press_iff hs h x y
  | drag x y => exact aligned_drag_iff hs h x y
  | scrollWheel | hoverAt | leave =>
    rw [Call.frame _ v]
    exact iff_of_true h id
  | moveLeft extend =>
    exact iff_of_true (h.moveBy hs (fun htext => by have := hhorizontal htext; omega) extend) id
  | moveRight extend => exact iff_of_true (h.moveBy hs hhorizontal extend) id
  | moveUp extend => exact iff_of_true (h.moveBy hs (fun _ => by omega) extend) id
  | moveDown extend => exact iff_of_true (h.moveBy hs (fun _ => hrow) extend) id
  | pageUp extend => exact iff_of_true (h.moveBy hs (fun _ => by omega) extend) id
  | pageDown extend => exact iff_of_true (h.moveBy hs (fun _ => hpage) extend) id
  | togglePane => exact iff_of_true (h.togglePane hs) id
  | typeChar c => exact iff_of_true (h.typeChar hs c) id
  | _ => exact hc.elim

end

-- ---------------------------------------------------------------------------
-- Runs
-- ---------------------------------------------------------------------------

theorem whole_apply (hs : v.selection.Whole) {c : Call σ} (hc : c.IsGesture) :
    (c.apply v).selection.Whole := by
  obtain hstays | ⟨hlooks, -⟩ := c.selects v
  · exact hs.stays hstays
  · cases c with
    | install | uninstall | dataChanged | tick => exact hc.elim
    | _ => exact hlooks.elim

theorem aligned_run_iff (hs : v.selection.Whole) (h : v.Aligned) {inputs : List (Call σ)}
    (hinputs : ∀ c ∈ inputs, c.IsGesture) :
    (∀ n, ((inputs.take n).foldl Call.apply v).Aligned) ↔
      ∀ (n : Nat), ∀ c ∈ inputs[n]?, ¬ c.Misplaces ((inputs.take n).foldl Call.apply v) := by
  induction inputs generalizing v with
  | nil => simp [h]
  | cons c inputs ih =>
    obtain ⟨hc, hinputs⟩ := List.forall_mem_cons.mp hinputs
    have hstep := aligned_apply_iff hs h hc
    rw [← Nat.and_forall_add_one,
      ← Nat.and_forall_add_one (p := fun n => ∀ d ∈ (c :: inputs)[n]?, _)]
    simp only [List.take_succ_cons, List.foldl_cons, List.getElem?_cons_succ,
      List.getElem?_cons_zero, List.take_zero,
      List.foldl_nil, Option.mem_def, Option.some.injEq, forall_eq', h, true_and]
    by_cases haligned : (c.apply v).Aligned
    · rw [ih (whole_apply hs hc) haligned hinputs]
      exact (and_iff_right (hstep.mp haligned)).symm
    · exact iff_of_false (fun hrun => haligned (hrun 0)) fun hrun => haligned (hstep.mpr hrun.1)

theorem selection_install (v : View σ) (source : σ) :
    (v.install source).selection = .empty (2 * ByteSource.length source) := by
  unfold install resetWith
  simp only
  split <;> rfl

theorem whole_install (v : View σ) {source : σ} (hlength : ByteSource.length source < 2 ^ 62) :
    (v.install source).selection.Whole := by
  rw [selection_install]
  refine ⟨⟨Nat.zero_le _, Nat.zero_le _, rfl⟩, ?_, ?_⟩
  · change 2 * _ < _
    omega
  · change 2 * _ % 2 = 0
    omega

theorem aligned_install (v : View σ) (source : σ) : (v.install source).Aligned := by
  intro _
  rw [caret, selection_install]
  rfl

/-- From a newly installed source on, the caret is on a high digit whenever the text pane is active,
if and only if no input of the run misplaces it. -/
theorem text_caret_even_iff (v : View σ) {source : σ} (hlength : ByteSource.length source < 2 ^ 62)
    {inputs : List (Call σ)} (hinputs : ∀ c ∈ inputs, c.IsGesture) :
    let state (n : Nat) := (inputs.take n).foldl Call.apply (v.install source)
    (∀ n, (state n).activePane = .text → (state n).caret % 2 = 0) ↔
      ∀ (n : Nat), ∀ c ∈ inputs[n]?, ¬ c.Misplaces (state n) :=
  aligned_run_iff (v.whole_install hlength) (v.aligned_install source) hinputs

/-- The text pane is entered from a low digit by key and by a press on a character. The caret goes
to both ends of three bytes, and is dragged along the characters and off the grid. -/
theorem text_caret_even_entered :
    let source : Memory := { bytes := #[0x41, 0x42, 0x43], editable := true }
    let inputs : List (Call Memory) :=
      [.moveRight false, .togglePane, .typeChar 'x', .moveDown true, .togglePane, .moveLeft false,
        .press 400 10, .drag 420 10,
        .drag 420 0]
    let state (n : Nat) :=
      (inputs.take n).foldl Call.apply ((View.resize {} 640 480).install source)
    (∀ n, (state n).activePane = .text → (state n).caret % 2 = 0) ∧
      (List.range 10).map (fun n => (state n).caret) = [0, 1, 0, 2, 6, 6, 5, 0, 4, 0] := by
  intro source inputs state
  have hinputs : ∀ c ∈ inputs, c.IsGesture := by simp [inputs, Call.IsGesture]
  refine ⟨(text_caret_even_iff _ (by decide) hinputs).mpr fun n c hc => ?_, by decide⟩
  have hn : n < 9 := (List.getElem?_eq_some_iff.mp hc).1
  have hplaced : ∀ n < 9, ∀ c ∈ inputs[n]?, ¬ c.Misplaces (state n) := by decide
  exact hplaced n hn c hc

/-- A press right of the characters turns to the text pane with the caret on a low digit, and so
does a drag from a character over a low digit. -/
theorem text_caret_odd :
    let v : View Memory := (View.resize {} 640 480).install { bytes := #[0, 0] }
    let pressed := (Call.press 600 10).apply ((Call.moveRight false).apply v)
    let dragged := (Call.drag 103 10).apply ((Call.press 400 10).apply v)
    pressed.activePane = .text ∧ pressed.caret = 1 ∧ dragged.activePane = .text ∧
      dragged.caret = 1 := by
  decide

end View

end HexEditor
