import HexEditor.Proofs.Selection
import HexEditor.Proofs.View.Effect

/-!
# How far a call scrolls and selects

A call leaves the extents of the window as they are and scrolls within them, or it computes them
anew: `Call.scrolls`. In the same way it keeps the end of the data that the selection knows of, and
selects within it, or it looks for the end: `Call.selects`. So extents that are up to date stay so,
and the selection goes on to end with the data, for as long as the source keeps its length.
-/

namespace HexEditor

namespace View

variable [ByteSource σ] {v w : View σ}

-- ---------------------------------------------------------------------------
-- Lengths and ticks
-- ---------------------------------------------------------------------------

theorem length_of_core (h : w.core = v.core) : w.length = v.length :=
  congrArg (fun c : Core σ => c.source.elim 0 ByteSource.length) h

theorem length_dataChanged (v : View σ) : v.dataChanged.length = v.length :=
  length_of_core v.core_dataChanged

theorem length_resetWith (v : View σ) (source : Option σ) :
    (v.resetWith source).length = source.elim 0 ByteSource.length := by
  unfold resetWith
  simp only
  split <;> rfl

theorem length_replaced {s s' : σ} (hs : v.source = some s)
    (hlength : ByteSource.length s' = ByteSource.length s) :
    { v with source := some s' }.length = v.length := by
  rw [View.length, View.length, hs]
  exact hlength

theorem tick_of_changed (hs : v.source = some s) (hchanged : (ByteSource.takeChange s).1 = true)
    (now : Nat) : ∃ source poller events,
      v.tick now = { ({ v with source } : View σ).dataChanged with poller, events } := by
  have htick := v.tick_eq hs now
  simp only [hchanged, if_true] at htick
  rw [htick]
  split
  · exact ⟨_, _, _, rfl⟩
  · exact ⟨_, _, _, rfl⟩

/-- A tick asks the source for bytes, and looks for the end of data that has changed. -/
theorem tick_cases (v : View σ) (now : Nat) : ∃ source poller events,
    v.tick now = { v with source, poller, events } ∨
      v.tick now = { ({ v with source } : View σ).dataChanged with poller, events } := by
  cases hs : v.source with
  | none =>
    have hkeep : v.tick now = v := by rw [tick, hs]
    exact ⟨v.source, v.poller, v.events, .inl hkeep⟩
  | some s =>
    cases hchanged : (ByteSource.takeChange s).1 with
    | true =>
      obtain ⟨source, poller, events, htick⟩ := tick_of_changed hs hchanged now
      exact ⟨source, poller, events, .inr htick⟩
    | false =>
      have htick := v.tick_eq hs now
      simp only [hchanged, Bool.false_eq_true, if_false] at htick
      rw [htick]
      split
      · exact ⟨_, _, _, .inl rfl⟩
      · exact ⟨_, _, _, .inl rfl⟩

-- ---------------------------------------------------------------------------
-- Scroll positions
-- ---------------------------------------------------------------------------

/-- Layout and font are kept, and the window is at most scrolled. -/
structure Scrolls (v w : View σ) : Prop where
  layout : w.layout = v.layout
  metrics : w.metrics = v.metrics
  viewport : v.viewport.Scrolled w.viewport

section
variable (hlayout : w.layout = v.layout) (hmetrics : w.metrics = v.metrics)
include hlayout hmetrics

omit [ByteSource σ] in
theorem scrolls_of_viewport (hviewport : w.viewport = v.viewport) : v.Scrolls w :=
  ⟨hlayout, hmetrics, hviewport ▸ v.viewport.scrolled_self⟩

omit [ByteSource σ] in
theorem scrolls_to_caret
    (hviewport : w.viewport = v.viewport.ensureVisible nibble bytesPerRow visibleRows) :
    v.Scrolls w :=
  ⟨hlayout, hmetrics, hviewport ▸ v.viewport.scrolled_ensureVisible _ _ _⟩

end

omit [ByteSource σ] in
theorem scrolls_self (v : View σ) : v.Scrolls v :=
  scrolls_of_viewport rfl rfl rfl

omit [ByteSource σ] in
theorem scrolls_accept {r : Except Error (View σ)} (h : ∀ w, r = .ok w → v.Scrolls w) :
    v.Scrolls (v.accept r) := by
  cases r with
  | ok w => exact h w rfl
  | error => exact v.scrolls_self

theorem scrolls_setCaret (h : v.setCaret nibble = .ok w) : v.Scrolls w := by
  obtain ⟨s, -, rfl⟩ := exists_of_map_ok h
  exact scrolls_to_caret rfl rfl rfl

theorem scrolls_moveBy (delta : Int) (extend : Bool) : v.Scrolls (v.moveBy delta extend) := by
  unfold moveBy
  simp only
  split
  · exact scrolls_to_caret rfl rfl rfl
  · exact v.scrolls_self

theorem scrolls_goto (h : v.goto address = .ok w) : v.Scrolls w := by
  obtain ⟨nibble, hcaret⟩ | rfl := v.goto_ok h
  · exact scrolls_setCaret hcaret
  · split
    all_goals exact scrolls_to_caret rfl rfl rfl

theorem scrolls_typeChar (c : Char) : v.Scrolls (v.typeChar c).2 := by
  unfold typeChar
  cases v.applyChar c with
  | error => exact v.scrolls_self
  | ok outcome => exact scrolls_to_caret rfl rfl rfl

theorem scrolls_drag (x y : Int) : v.Scrolls (v.drag x y) := by
  unfold drag
  repeat' split
  · exact ⟨rfl, rfl, v.viewport.scrolled_setFirstRow _⟩
  · exact ⟨rfl, rfl, v.viewport.scrolled_setFirstRow _⟩
  all_goals exact scrolls_of_viewport rfl rfl rfl

theorem fits_layoutChanged (v : View σ) : v.layoutChanged.viewport.Fits v.layoutChanged.grid :=
  ((v.viewport.fits_recomputeExtents v.grid).scrolled
    (Viewport.scrolled_ensureVisible _ _ _ _)).congr rfl rfl rfl

theorem fits_resetWith (v : View σ) (source : Option σ) :
    (v.resetWith source).viewport.Fits (v.resetWith source).grid := by
  unfold resetWith
  simp only
  split
  all_goals exact (Viewport.fits_rewound _ _).congr rfl rfl rfl

theorem fits_dataChanged (v : View σ) : v.dataChanged.viewport.Fits v.dataChanged.grid := by
  unfold dataChanged
  simp only
  split
  all_goals exact (Viewport.fits_recomputeExtents _ _).congr rfl rfl rfl

end View

/-- A call scrolls the window, or it leaves extents that are up to date. -/
theorem Call.scrolls [ByteSource σ] (c : Call σ) (v : View σ) :
    v.Scrolls (c.apply v) ∨ (c.apply v).viewport.Fits (c.apply v).grid := by
  have harranged {w : View σ} (hw : w = v ∨ ∃ u : View σ, w = u.layoutChanged) :
      v.Scrolls w ∨ w.viewport.Fits w.grid := by
    obtain rfl | ⟨u, rfl⟩ := hw
    · exact .inl w.scrolls_self
    · exact .inr u.fits_layoutChanged
  cases c with
  | install source => exact .inr (v.fits_resetWith (some source))
  | uninstall => exact .inr (v.fits_resetWith none)
  | dataChanged => exact .inr v.fits_dataChanged
  | setLayout | setBytesPerRow | setBytesPerColumn | setColumnSpacing | setAddressWidth
  | setFlipBytes
  | setBaseAddress => exact harranged (v.setLayout_cases _)
  | setMetrics metrics => exact harranged (v.setMetrics_cases metrics)
  | resize width height => exact harranged (v.resize_cases width height)
  | setFirstRow row => exact .inl ⟨rfl, rfl, v.viewport.scrolled_setFirstRow row⟩
  | setFirstColumn column => exact .inl ⟨rfl, rfl, v.viewport.scrolled_setFirstColumn column⟩
  | scrollWheel rows =>
    simp only [apply, View.scrollWheel]
    split
    all_goals exact .inl ⟨rfl, rfl, v.viewport.scrolled_setFirstRow _⟩
  | moveBy | moveLeft | moveRight | moveUp | moveDown | pageUp | pageDown =>
    exact .inl (View.scrolls_moveBy _ _)
  | setCaret => exact .inl (View.scrolls_accept fun _ => View.scrolls_setCaret)
  | setSelectionLength => exact .inl (View.scrolls_to_caret rfl rfl rfl)
  | goto => exact .inl (View.scrolls_accept fun _ => View.scrolls_goto)
  | setCurrentAddress =>
    refine .inl (View.scrolls_accept fun w hw => ?_)
    obtain ⟨nibble, hcaret⟩ := v.setCurrentAddress_ok hw
    exact View.scrolls_setCaret hcaret
  | typeChar char => exact .inl (View.scrolls_typeChar char)
  | drag x y => exact .inl (View.scrolls_drag x y)
  | tick now =>
    obtain ⟨source, poller, events, htick | htick⟩ := v.tick_cases now
    · rw [apply, htick]
      exact .inl (View.scrolls_of_viewport rfl rfl rfl)
    · rw [apply, htick]
      exact .inr (View.fits_dataChanged _)
  | _ =>
    rw [Call.frame _ v]
    exact .inl (View.scrolls_of_viewport rfl rfl rfl)

/-- Extents that are up to date stay so, while the source keeps its length. -/
theorem Call.fits [ByteSource σ] {c : Call σ} {v : View σ} (h : v.viewport.Fits v.grid)
    (hsame : (c.apply v).length = v.length) : (c.apply v).viewport.Fits (c.apply v).grid := by
  obtain hscrolls | hfits := c.scrolls v
  · exact (h.scrolled hscrolls.viewport).congr hscrolls.layout hscrolls.metrics hsame
  · exact hfits

-- ---------------------------------------------------------------------------
-- Selections
-- ---------------------------------------------------------------------------

/-- Calls that look where the data ends. A tick does so if it finds a change. -/
def Call.Looks : Call σ → Prop
  | install _ | uninstall | dataChanged | tick _ => True
  | _ => False

namespace View

theorem stays_accept {v : View σ} {r : Except Error (View σ)}
    (h : ∀ w, r = .ok w → v.selection.Stays w.selection) :
    v.selection.Stays (v.accept r).selection := by
  cases r with
  | ok w => exact h w rfl
  | error => exact v.selection.stays_self

variable [ByteSource σ] {v w : View σ}

theorem stays_moveBy (v : View σ) (delta : Int) (extend : Bool) :
    v.selection.Stays (v.moveBy delta extend).selection := by
  unfold moveBy
  simp only
  split
  · exact v.selection.stays_moveBy delta extend
  · exact v.selection.stays_self

theorem stays_setCaret (h : v.setCaret nibble = .ok w) : v.selection.Stays w.selection := by
  obtain ⟨selection, hset, rfl⟩ := exists_of_map_ok h
  exact Selection.stays_setCaret hset

theorem stays_goto (h : v.goto address = .ok w) : v.selection.Stays w.selection := by
  obtain ⟨nibble, hcaret⟩ | rfl := v.goto_ok h
  · exact stays_setCaret hcaret
  · split
    all_goals exact v.selection.stays_self

omit [ByteSource σ] in
theorem stays_togglePane (v : View σ) : v.selection.Stays v.togglePane.selection := by
  unfold togglePane
  split
  · split
    · exact v.selection.stays_self
    · change v.selection.Stays
        (if v.caret % 2 = 1 then v.selection.moveBy (-1) false else v.selection)
      split
      · exact v.selection.stays_moveBy (-1) false
      · exact v.selection.stays_self
  · exact v.selection.stays_self

theorem stays_typeChar (v : View σ) (c : Char) : v.selection.Stays (v.typeChar c).2.selection := by
  unfold typeChar
  split
  · exact v.selection.stays_self
  · exact v.selection.stays_moveBy v.horizontalStep false

theorem stays_press (v : View σ) (x y : Int) : v.selection.Stays (v.press x y).selection := by
  unfold press
  split
  · simp only
    split
    next hset => exact Selection.stays_setCaret hset
    next => exact v.selection.stays_self
  · exact v.selection.stays_self

theorem stays_drag (v : View σ) (x y : Int) : v.selection.Stays (v.drag x y).selection := by
  unfold drag
  repeat' split
  · exact v.selection.stays_moveBy (-1 * v.rowStep) true
  · exact v.selection.stays_moveBy (1 * v.rowStep) true
  · exact v.selection.stays_extendTo _
  all_goals exact v.selection.stays_self

theorem ends_resetWith (v : View σ) (source : Option σ) :
    (v.resetWith source).selection.EndsAt (2 * (v.resetWith source).length) := by
  unfold resetWith
  simp only
  split
  all_goals exact Selection.endsAt_empty _

theorem ends_dataChanged (v : View σ) :
    v.dataChanged.selection.EndsAt (2 * v.dataChanged.length) := by
  rw [length_dataChanged]
  unfold dataChanged
  simp only
  split
  all_goals exact v.selection.endsAt_setLimit _

end View

/-- A call keeps the end of the data that a view knows of, or finds it anew. -/
theorem Call.selects [ByteSource σ] (c : Call σ) (v : View σ) :
    v.selection.Stays (c.apply v).selection ∨
      c.Looks ∧ (c.apply v).selection.EndsAt (2 * (c.apply v).length) := by
  cases c with
  | install source => exact .inr ⟨trivial, v.ends_resetWith (some source)⟩
  | uninstall => exact .inr ⟨trivial, v.ends_resetWith none⟩
  | dataChanged => exact .inr ⟨trivial, v.ends_dataChanged⟩
  | moveBy | moveLeft | moveRight | moveUp | moveDown | pageUp | pageDown =>
    exact .inl (v.stays_moveBy _ _)
  | setCaret => exact .inl (View.stays_accept fun _ => View.stays_setCaret)
  | setSelectionLength length => exact .inl (v.selection.stays_setLength length)
  | goto => exact .inl (View.stays_accept fun _ => View.stays_goto)
  | setCurrentAddress =>
    refine .inl (View.stays_accept fun w hw => ?_)
    obtain ⟨nibble, hcaret⟩ := v.setCurrentAddress_ok hw
    exact View.stays_setCaret hcaret
  | togglePane => exact .inl v.stays_togglePane
  | typeChar char => exact .inl (v.stays_typeChar char)
  | press x y => exact .inl (v.stays_press x y)
  | drag x y => exact .inl (v.stays_drag x y)
  | tick now =>
    obtain ⟨source, poller, events, htick | htick⟩ := v.tick_cases now
    · rw [apply, htick]
      exact .inl v.selection.stays_self
    · rw [apply, htick]
      exact .inr ⟨trivial, View.ends_dataChanged _⟩
  | _ =>
    rw [Call.keeps _ v View.selection fun _ => rfl]
    exact .inl v.selection.stays_self

/-- A selection that ends with the data goes on to do so, while the source keeps its length. -/
theorem Call.ends [ByteSource σ] {c : Call σ} {v : View σ} (h : v.selection.EndsAt (2 * v.length))
    (hsame : (c.apply v).length = v.length) :
    (c.apply v).selection.EndsAt (2 * (c.apply v).length) := by
  obtain hstays | ⟨-, hends⟩ := c.selects v
  · rw [hsame]
    exact h.stays hstays
  · exact hends

end HexEditor
