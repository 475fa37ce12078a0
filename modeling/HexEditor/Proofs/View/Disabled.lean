import HexEditor.Proofs.View.Effect
import HexEditor.Source

/-!
# Disabled views

Keys, presses, drags and the pointer are ignored while a view is disabled; the wheel still scrolls.
`disabled_input` says what is left of a sequence of inputs: the rows that the wheel has scrolled,
with a repaint for each time it did, and nothing at all if it could not move.
-/

namespace HexEditor

namespace Call

def IsGesture : Call σ → Prop
  | press _ _ | drag _ _ | hoverAt _ _ | leave | scrollWheel _ => True
  | moveLeft _ | moveRight _ | moveUp _ | moveDown _ | pageUp _ | pageDown _ => True
  | togglePane | typeChar _ => True
  | _ => False

/-- Gestures, and moves of the caret by any number of nibbles. -/
def IsInput : Call σ → Prop
  | moveBy _ _ => True
  | c => c.IsGesture

def turn? : Call σ → Option Int
  | scrollWheel rows => some rows
  | _ => none

theorem turn?_eq_some {c : Call σ} : c.turn? = some rows ↔ c = .scrollWheel rows := by
  cases c <;> simp [turn?]

end Call

namespace View

-- ---------------------------------------------------------------------------
-- The pointer
-- ---------------------------------------------------------------------------

/-- A disabled view does not track the pointer. -/
def Locked (v : View σ) : Prop :=
  v.enabled = false → v.hover = none

theorem Locked.setEnabled {v : View σ} (h : v.Locked) (enabled : Bool) :
    (v.setEnabled enabled).Locked := by
  unfold View.setEnabled
  split
  · exact h
  · cases enabled with
    | true => exact nofun
    | false => exact fun _ => rfl

theorem Locked.hoverAt {v : View σ} (h : v.Locked) (x y : Int) : (v.hoverAt x y).Locked := by
  unfold View.hoverAt
  split
  next hmoved => exact fun hoff => absurd hmoved.1 (Bool.eq_false_iff.mp hoff)
  next => exact h

theorem locked_leave (v : View σ) : v.leave.Locked := by
  unfold leave
  split
  next => exact fun _ => rfl
  next hnone => exact fun _ => by simpa using hnone

variable [ByteSource σ] {v w : View σ}

theorem locked_resetWith (v : View σ) (source : Option σ) : (v.resetWith source).Locked := by
  unfold resetWith
  simp only
  split <;> exact fun _ => rfl

theorem Locked.apply (h : v.Locked) (c : Call σ) : (c.apply v).Locked := by
  cases c with
  | install source => exact v.locked_resetWith (some source)
  | uninstall => exact v.locked_resetWith none
  | setEnabled enabled => exact h.setEnabled enabled
  | hoverAt x y => exact h.hoverAt x y
  | leave => exact v.locked_leave
  | _ =>
    rw [Call.frame _ v]
    exact h

theorem Reachable.locked {Outside : σ → σ → Prop} (h : v.Reachable Outside) : v.Locked := by
  induction h with
  | new => exact nofun
  | ofSettings h =>
    rw [ofSettings_ok h]
    exact nofun
  | call _ c ih => exact ih.apply c
  | outside _ _ _ ih => exact ih

-- ---------------------------------------------------------------------------
-- Inputs
-- ---------------------------------------------------------------------------

theorem applyChar_of_disabled (hoff : v.enabled = false) (c : Char) :
    ∃ reason, v.applyChar c = .error reason := by
  cases hs : v.source with
  | none => exact ⟨.noSource, by simp [applyChar, hs]⟩
  | some s => exact ⟨.disabled, by simp [applyChar, hs, hoff]⟩

theorem apply_of_disabled (hv : v.Locked) (hoff : v.enabled = false) {c : Call σ} (hc : c.IsInput) :
    c.apply v = c.turn?.elim v v.scrollWheel := by
  have hmoveBy (delta : Int) (extend : Bool) : v.moveBy delta extend = v := by simp [moveBy, hoff]
  have haccepts : v.acceptsInput = false := by simp [acceptsInput, hoff]
  cases c with
  | press | drag => simp [Call.apply, Call.turn?, press, drag, haccepts]
  | hoverAt => simp [Call.apply, Call.turn?, hoverAt, hoff]
  | leave => simp [Call.apply, Call.turn?, leave, hv hoff]
  | scrollWheel rows => rfl
  | moveLeft | moveRight | moveUp | moveDown | pageUp | pageDown | moveBy => exact hmoveBy _ _
  | togglePane => simp [Call.apply, Call.turn?, togglePane, hoff]
  | typeChar c =>
    obtain ⟨reason, hreason⟩ := applyChar_of_disabled hoff c
    simp [Call.apply, Call.turn?, typeChar, hreason]
  | _ => exact hc.elim

omit [ByteSource σ] in
theorem scrollWheel_of_stays {rows : Int}
    (h : (v.viewport.scrollRows rows).firstRow = v.viewport.firstRow) :
    v.scrollWheel rows = v := by
  have hkeep : v.viewport.scrollRows rows = v.viewport := by
    simp only [Viewport.scrollRows, Viewport.setFirstRow] at h ⊢
    rw [h]
  simp [scrollWheel, hkeep]

omit [ByteSource σ] in
theorem scrollWheel_of_moves {rows : Int}
    (h : (v.viewport.scrollRows rows).firstRow ≠ v.viewport.firstRow) :
    v.scrollWheel rows = { v with
      viewport := { v.viewport with firstRow := (v.viewport.scrollRows rows).firstRow }
      events := v.events ++ [.repaintRequested] } := by
  simp only [scrollWheel, if_neg h]
  rfl

omit [ByteSource σ] in
theorem enabled_scrollWheel (v : View σ) (rows : Int) :
    (v.scrollWheel rows).enabled = v.enabled := by
  simp only [scrollWheel]
  split <;> rfl

omit [ByteSource σ] in
theorem turns_eq (v : View σ) (turns : List Int) :
    ∃ row moves, turns.foldl scrollWheel v = { v with
      viewport := { v.viewport with firstRow := row }
      events := v.events ++ List.replicate moves .repaintRequested } := by
  induction turns generalizing v with
  | nil => exact ⟨v.viewport.firstRow, 0, by simp⟩
  | cons rows turns ih =>
    obtain ⟨row, moves, hlast⟩ := ih (v.scrollWheel rows)
    by_cases hstays : (v.viewport.scrollRows rows).firstRow = v.viewport.firstRow
    · rw [scrollWheel_of_stays hstays] at hlast
      exact ⟨row, moves, by rw [List.foldl_cons, scrollWheel_of_stays hstays, hlast]⟩
    · refine ⟨row, moves + 1, ?_⟩
      rw [List.foldl_cons, hlast, scrollWheel_of_moves hstays]
      simp [List.replicate_succ]

omit [ByteSource σ] in
/-- A view is as before when no turn has moved it: one that has is told, and what is told stays
told. -/
theorem turns_eq_self_iff (v : View σ) (turns : List Int) :
    turns.foldl scrollWheel v = v ↔
      ∀ rows ∈ turns, (v.viewport.scrollRows rows).firstRow = v.viewport.firstRow := by
  induction turns generalizing v with
  | nil => simp
  | cons rows turns ih =>
    rw [List.foldl_cons, List.forall_mem_cons]
    by_cases hstays : (v.viewport.scrollRows rows).firstRow = v.viewport.firstRow
    · rw [scrollWheel_of_stays hstays, ih]
      exact (and_iff_right hstays).symm
    · refine iff_of_false (fun hsame => ?_) fun h => hstays h.1
      obtain ⟨row, moves, hlast⟩ := (v.scrollWheel rows).turns_eq turns
      have hevents := congrArg (fun w : View σ => w.events.length) (hlast.symm.trans hsame)
      simp [scrollWheel_of_moves hstays] at hevents

theorem run_of_disabled (hv : v.Locked) (hoff : v.enabled = false) {inputs : List (Call σ)}
    (hinputs : ∀ c ∈ inputs, c.IsInput) :
    inputs.foldl Call.apply v = (inputs.filterMap Call.turn?).foldl scrollWheel v := by
  induction inputs generalizing v with
  | nil => rfl
  | cons c inputs ih =>
    obtain ⟨hc, hinputs⟩ := List.forall_mem_cons.mp hinputs
    have happly := apply_of_disabled hv hoff hc
    have hnext : (c.apply v).enabled = false := by
      rw [happly]
      cases c.turn? with
      | none => exact hoff
      | some rows => exact (v.enabled_scrollWheel rows).trans hoff
    rw [List.foldl_cons, ih (hv.apply c) hnext hinputs, happly]
    cases hturn : c.turn? <;> simp [hturn]

/-- While a view is disabled, inputs change at most the first row on screen, and queue repaints
only. They change nothing at all if and only if no turn of the wheel among them can move it. -/
theorem disabled_input {Outside : σ → σ → Prop} (hv : v.Reachable Outside)
    (hoff : v.enabled = false) {inputs : List (Call σ)} (hinputs : ∀ c ∈ inputs, c.IsInput) :
    let w := inputs.foldl Call.apply v
    (∃ row moves, w = { v with
      viewport := { v.viewport with firstRow := row }
      events := v.events ++ List.replicate moves .repaintRequested }) ∧
      (w = v ↔ ∀ rows, .scrollWheel rows ∈ inputs →
        (v.viewport.scrollRows rows).firstRow = v.viewport.firstRow) := by
  intro w
  have hw : w = (inputs.filterMap Call.turn?).foldl scrollWheel v :=
    run_of_disabled hv.locked hoff hinputs
  refine ⟨?_, ?_⟩
  · rw [hw]
    exact v.turns_eq _
  · rw [hw, turns_eq_self_iff]
    simp [Call.turn?_eq_some]

/-- The pointer is over the grid, and one of two rows is on screen, when the view is disabled. -/
theorem disabled_input_scrolled :
    let v : View Memory :=
      (Call.setEnabled false).apply ((Call.hoverAt 90 20).apply ((Call.resize 640 28).apply
      ((Call.install { bytes := Array.replicate 32 0, editable := true }).apply {})))
    let inputs :=
      [Call.press 90 20, .typeChar '7', .leave, .moveDown true, .scrollWheel 1, .scrollWheel (-1)]
    let w := inputs.foldl Call.apply v
    w ≠ v ∧ w.source = v.source ∧ w.selection = v.selection ∧ w.hover = none := by
  intro v inputs w
  have hv : v.Reachable fun _ _ => False := (((Reachable.new.call _).call _).call _).call _
  have hinputs : ∀ c ∈ inputs, c.IsInput := by simp [inputs, Call.IsInput, Call.IsGesture]
  obtain ⟨⟨row, moves, hw⟩, hsame⟩ : (∃ row moves, w = _) ∧ (w = v ↔ _) :=
    disabled_input hv rfl hinputs
  refine ⟨fun h => ?_, ?_⟩
  · exact absurd (hsame.mp h 1 (by simp [inputs])) (by decide)
  · rw [hw]
    exact ⟨rfl, rfl, rfl⟩

/-- The wheel scrolls a disabled view. -/
theorem disabled_scrolls :
    let v : View Memory := (Call.setEnabled false).apply ((Call.resize 640 28).apply
      ((Call.install { bytes := Array.replicate 32 0 }).apply {}))
    let w := (Call.scrollWheel 1).apply v
    v.Reachable (fun _ _ => False) ∧ v.enabled = false ∧ v.viewport.firstRow = 0 ∧
      w.viewport.firstRow = 1 ∧
      w.events = v.events ++ [.repaintRequested] := by
  intro v w
  exact ⟨((Reachable.new.call _).call _).call _, rfl, by decide, by decide, by decide⟩

end View

end HexEditor
