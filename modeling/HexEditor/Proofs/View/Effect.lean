import HexEditor.Proofs.View.Run
import HexEditor.Proofs.Viewport

/-!
# What a call does, and what it tells

A call appends to the queue of events; only `takeEvents` empties it. `Call.effect` sorts the calls
by what they change and by the events that they queue. What is not told is an empty layer, the
interval between polls, and what a source was asked meanwhile.
-/

namespace HexEditor

def Call.takes (v : View σ) : Call σ → List Event
  | .takeEvents => v.events
  | _ => []

namespace Event

def selection? : Event → Option (Nat × Int)
  | selectionChanged start length => some (start, length)
  | _ => none

def status? : Event → Option Status
  | statusChanged status => some status
  | _ => none

def Plain (e : Event) : Prop :=
  e.selection? = none ∧ e.status? = none

instance (e : Event) : Decidable e.Plain :=
  inferInstanceAs (Decidable (_ ∧ _))

end Event

namespace View

/-- The source is the same, or one byte of it was overwritten. -/
inductive Written [ByteSource σ] : Option σ → Option σ → Prop
  | keep : Written s s
  | write (hw : ByteSource.write s offset new = .ok s') : Written (some s) (some s')

/-- What is told when a source may have changed, with the selection before and after. -/
inductive Noted (s t : Selection) : Bool → List Event → Prop
  | nothing (h : t = s) : Noted s t false []
  | kept (h : t = s) : Noted s t true [.dataChanged, .repaintRequested]
  | moved : Noted s t true [.dataChanged, .selectionChanged t.start t.length, .repaintRequested]

/-- What a call can make of a view, with the events that it queues. -/
inductive Effect [ByteSource σ] (v w : View σ) : List Event → Prop
  | ignored (hw : w = { v with events := w.events }) : Effect v w []
  | layered (hw : w = { v with layers := v.layers.push }) : Effect v w []
  | paced (hw : w = { v with poller := { v.poller with interval } }) : Effect v w []
  | shown (hsource : w.source = v.source) (hpoller : w.poller = v.poller)
      (hselection : w.selection = v.selection) (hnew : new ≠ []) (hplain : ∀ e ∈ new, e.Plain) :
      Effect v w new
  | selected (before : List Event) (hplain : ∀ e ∈ before, e.Plain)
      (hsource : Written v.source w.source) (hpoller : w.poller = v.poller) :
      Effect v w
        (before ++ [.selectionChanged w.selection.start w.selection.length, .repaintRequested])
  | reset (source : Option σ) (hw : w = v.resetWith source) :
      Effect v w
        (.dataChanged :: ((if v.poller.status = .defined then [] else [.statusChanged .defined]) ++
        [.selectionChanged w.selection.start w.selection.length, .repaintRequested]))
  | rendered (hs : v.source = some s) (now : Nat) (hw : w = (v.render now).2) :
      Effect v w (if w.poller.status = v.poller.status then []
        else [.statusChanged w.poller.status])
  | ticked (hs : v.source = some s) (now : Nat) (hw : w = v.tick now)
      (hnoted : Noted v.selection w.selection (ByteSource.takeChange s).1 noted) :
      Effect v w (noted ++ if (v.poller.tick (ByteSource.takeChange s).2 now).1 then
        [.statusChanged w.poller.status, .repaintRequested] else [])
  | polled (hs : v.source = some s) (now : Nat) (hw : w = v.pollNow now) :
      Effect v w (if (v.poller.pollNow s now).1 then
        [.statusChanged w.poller.status, .repaintRequested] else [])

/-- A view that a call made, with the events that it queued behind the others. -/
def Does [ByteSource σ] (v w : View σ) : Prop :=
  ∃ new, w.events = v.events ++ new ∧ v.Effect w new

theorem events_emitSelection (v : View σ) : v.emitSelection.events =
    v.events ++ [.selectionChanged v.selection.start v.selection.length, .repaintRequested] := by
  simp [emitSelection, emit]

theorem events_statusChanged (v : View σ) : v.statusChanged.events =
    v.events ++ [.statusChanged v.poller.status, .repaintRequested] := by
  simp [statusChanged, emit]

variable [ByteSource σ] (v : View σ)

theorem does_self : v.Does v :=
  ⟨[], (List.append_nil _).symm, .ignored rfl⟩

theorem does_accept {r : Except Error (View σ)} (h : ∀ w, r = .ok w → v.Does w) :
    v.Does (v.accept r) := by
  cases r with
  | ok w => exact h w rfl
  | error => exact v.does_self

-- ---------------------------------------------------------------------------
-- Calls that change what is shown
-- ---------------------------------------------------------------------------

section
variable {v} {w : View σ} (hsource : w.source = v.source) (hpoller : w.poller = v.poller)
  (hselection : w.selection = v.selection) (he : w.events = v.events)
include hsource hpoller hselection he

theorem does_repaint : v.Does (w.emit .repaintRequested) := by
  refine ⟨[.repaintRequested], ?_, .shown hsource hpoller hselection nofun (by decide)⟩
  simp [emit, he]

theorem does_layoutChanged : v.Does w.layoutChanged := by
  refine ⟨[.layoutChanged, .repaintRequested], ?_,
    .shown hsource hpoller hselection nofun (by decide)⟩
  simp [layoutChanged, emit, relayout, ensureCaretVisible, he]

end

theorem does_setLayout (layout : Layout) : v.Does (v.accept (v.setLayout layout)) := by
  refine v.does_accept fun w h => ?_
  obtain ⟨-, rfl | rfl⟩ := v.setLayout_ok h
  · exact w.does_self
  · exact does_layoutChanged rfl rfl rfl rfl

theorem does_setMetrics (metrics : Metrics) : v.Does (v.accept (v.setMetrics metrics)) := by
  refine v.does_accept fun w h => ?_
  obtain ⟨-, rfl | rfl⟩ := v.setMetrics_ok h
  · exact w.does_self
  · exact does_layoutChanged rfl rfl rfl rfl

theorem does_resize (width height : Nat) : v.Does (v.resize width height) := by
  unfold resize
  split
  · exact v.does_self
  · exact does_layoutChanged rfl rfl rfl rfl

theorem does_setFocused (focused : Bool) : v.Does (v.setFocused focused) := by
  unfold setFocused
  split
  · exact v.does_self
  · exact does_repaint rfl rfl rfl rfl

theorem does_setEnabled (enabled : Bool) : v.Does (v.setEnabled enabled) := by
  unfold setEnabled
  split
  · exact v.does_self
  · exact does_repaint rfl rfl rfl rfl

theorem does_scroll {x : Viewport} (hx : x = { v.viewport with firstRow := x.firstRow }) :
    v.Does (if x.firstRow = v.viewport.firstRow then { v with viewport := x }
      else { v with viewport := x }.emit .repaintRequested) := by
  split
  · rename_i hsame
    have hkeep : { v with viewport := x } = v := by rw [hx, hsame]
    rw [hkeep]
    exact v.does_self
  · exact does_repaint rfl rfl rfl rfl

theorem does_scrollWheel (rows : Int) : v.Does (v.scrollWheel rows) :=
  v.does_scroll rfl

theorem does_hoverAt (x y : Int) : v.Does (v.hoverAt x y) := by
  unfold hoverAt
  split
  · exact does_repaint rfl rfl rfl rfl
  · exact v.does_self

theorem does_leave : v.Does v.leave := by
  unfold leave
  split
  · exact does_repaint rfl rfl rfl rfl
  · exact v.does_self

theorem does_setLayers {r : Except Error Layers} (h : v.setLayers <$> r = .ok w) : v.Does w := by
  obtain ⟨layers, -, rfl⟩ := exists_of_map_ok h
  exact does_repaint rfl rfl rfl rfl

-- ---------------------------------------------------------------------------
-- Calls that select
-- ---------------------------------------------------------------------------

theorem does_select {w : View σ} (hsource : w.source = v.source) (hpoller : w.poller = v.poller)
    (he : w.events = v.events) : v.Does w.emitSelection := by
  refine ⟨_, ?_, .selected [] nofun (hsource ▸ .keep) hpoller⟩
  rw [events_emitSelection, he]
  rfl

theorem noted_dataChanged :
    ∃ new, v.dataChanged.events = v.events ++ new ∧
      Noted v.selection v.dataChanged.selection true new := by
  unfold dataChanged
  simp only
  split
  · rename_i hsame
    refine ⟨_, ?_, .kept hsame⟩
    simp [emit, relayout]
  · refine ⟨_, ?_, .moved⟩
    rw [events_emitSelection]
    simp [emit, relayout, emitSelection]

theorem does_dataChanged : v.Does v.dataChanged := by
  obtain ⟨new, he, hnoted⟩ := v.noted_dataChanged
  have hcore := v.core_dataChanged
  have hsource : v.dataChanged.source = v.source := congrArg Core.source hcore
  have hpoller : v.dataChanged.poller = v.poller := congrArg Core.poller hcore
  refine ⟨new, he, ?_⟩
  cases hnoted with
  | kept hselection => exact .shown hsource hpoller hselection nofun (by decide)
  | moved => exact .selected [.dataChanged] (by decide) (hsource ▸ .keep) hpoller

theorem does_moveBy (delta : Int) (extend : Bool) : v.Does (v.moveBy delta extend) := by
  unfold moveBy
  simp only
  split
  · exact v.does_select rfl rfl rfl
  · exact v.does_self

theorem does_setCaret (h : v.setCaret nibble = .ok w) : v.Does w := by
  obtain ⟨selection, -, rfl⟩ := exists_of_map_ok h
  exact v.does_select rfl rfl rfl

theorem does_goto (h : v.goto address = .ok w) : v.Does w := by
  obtain ⟨nibble, hcaret⟩ | rfl := v.goto_ok h
  · exact v.does_setCaret hcaret
  · exact v.does_scroll (v.viewport.ensureVisible_eq _ _ _)

theorem does_setCurrentAddress (h : v.setCurrentAddress address = .ok w) : v.Does w := by
  obtain ⟨nibble, hcaret⟩ := v.setCurrentAddress_ok h
  exact v.does_setCaret hcaret

theorem does_togglePane : v.Does v.togglePane := by
  unfold togglePane
  split
  · split
    · exact v.does_select rfl rfl rfl
    · exact v.does_select rfl rfl rfl
  · exact v.does_self

theorem does_typeChar (c : Char) : v.Does (v.typeChar c).2 := by
  unfold typeChar
  cases h : v.applyChar c with
  | error => exact v.does_self
  | ok outcome =>
    obtain ⟨source, hs, hw⟩ := v.applyChar_write h
    refine ⟨_, ?_, .selected [.dataChanged] (by decide) (hs ▸ .write hw) rfl⟩
    rw [events_emitSelection]
    simp [emit, ensureCaretVisible, emitSelection]

theorem does_press (x y : Int) : v.Does (v.press x y) := by
  unfold press
  split
  · exact v.does_select rfl rfl rfl
  · exact v.does_self

theorem does_drag (x y : Int) : v.Does (v.drag x y) := by
  unfold drag
  repeat' split
  · exact v.does_select rfl rfl rfl
  · exact v.does_select rfl rfl rfl
  · exact v.does_select rfl rfl rfl
  · exact v.does_self
  · exact v.does_self

-- ---------------------------------------------------------------------------
-- Calls that change or ask the source
-- ---------------------------------------------------------------------------

theorem does_resetWith (source : Option σ) : v.Does (v.resetWith source) := by
  refine ⟨_, ?_, .reset source rfl⟩
  unfold resetWith
  simp only
  split <;> simp [emit, emitSelection, relayout]

theorem render_view (hs : v.source = some s) (now : Nat) :
    (v.render now).2 = { v with
      source := some (v.poller.fetch s v.visibleRange now).2.2
      poller := (v.poller.fetch s v.visibleRange now).2.1
      events := (v.render now).2.events } := by
  rw [render, fetch, hs]
  simp only
  split <;> rfl

theorem pollNow_eq (hs : v.source = some s) (now : Nat) :
    v.pollNow now = { v with
      source := some (v.poller.pollNow s now).2.2
      poller := (v.poller.pollNow s now).2.1
      events := (v.pollNow now).events } := by
  rw [pollNow, hs]
  simp only
  split <;> rfl

theorem does_render (now : Nat) : v.Does (v.render now).2 := by
  cases hs : v.source with
  | none =>
    have hkeep : (v.render now).2 = v := by rw [render, fetch, hs]
    rw [hkeep]
    exact v.does_self
  | some s =>
    refine ⟨_, ?_, .rendered hs now rfl⟩
    rw [render, fetch, hs]
    simp only
    split
    · exact (List.append_nil _).symm
    · rw [if_neg ‹_›]
      rfl

theorem does_pollNow (now : Nat) : v.Does (v.pollNow now) := by
  cases hs : v.source with
  | none =>
    have hkeep : v.pollNow now = v := by rw [pollNow, hs]
    rw [hkeep]
    exact v.does_self
  | some s =>
    refine ⟨_, ?_, .polled hs now rfl⟩
    rw [pollNow, hs]
    simp only
    split
    · exact events_statusChanged _
    · exact (List.append_nil _).symm

theorem dataChanged_poller (poller : Poller) :
    { v with poller }.dataChanged = { v.dataChanged with poller } := by
  unfold dataChanged
  simp only
  split
  · rw [if_pos ‹_›]
    rfl
  · rw [if_neg ‹_›]
    rfl

/-- A tick takes note of a change of the source before it tells the status that a poll has found. -/
theorem tick_eq (hs : v.source = some s) (now : Nat) :
    v.tick now =
      let change := ByteSource.takeChange s
      let poll := v.poller.tick change.2 now
      let asked := { v with source := some poll.2.2 }
      let noted := { (if change.1 then asked.dataChanged else asked) with poller := poll.2.1 }
      if poll.1 then noted.statusChanged else noted := by
  have hnoted (changed : Bool) (w : View σ) (poller : Poller) :
      (if changed then { w with poller }.dataChanged else { w with poller }) =
        { (if changed then w.dataChanged else w) with poller } := by
    split
    · exact w.dataChanged_poller poller
    · rfl
  rw [tick, hs]
  simp only [← hnoted]

theorem does_tick (now : Nat) : v.Does (v.tick now) := by
  cases hs : v.source with
  | none =>
    have hkeep : v.tick now = v := by rw [tick, hs]
    rw [hkeep]
    exact v.does_self
  | some s =>
    have hchange (changed : Bool) (w : View σ) : ∃ noted,
        (if changed then w.dataChanged else w).events = w.events ++ noted ∧
          Noted w.selection (if changed then w.dataChanged else w).selection changed noted := by
      cases changed with
      | true => exact w.noted_dataChanged
      | false => exact ⟨[], (List.append_nil _).symm, .nothing rfl⟩
    obtain ⟨noted, he, hnoted⟩ := hchange (ByteSource.takeChange s).1
      { v with source := some (v.poller.tick (ByteSource.takeChange s).2 now).2.2 }
    have htick := v.tick_eq hs now
    simp only at htick
    refine ⟨noted ++ _, ?_, .ticked hs now rfl ?_⟩
    · rw [htick, ← List.append_assoc, ← he]
      split
      · exact events_statusChanged _
      · exact (List.append_nil _).symm
    · rw [htick]
      split
      · exact hnoted
      · exact hnoted

end View

/-- Every call is of one of these kinds, and queues its events behind the others. -/
theorem Call.effect [ByteSource σ] (c : Call σ) (v : View σ) :
    ∃ new, c.takes v ++ (c.apply v).events = v.events ++ new ∧ v.Effect (c.apply v) new := by
  cases c with
  | takeEvents => exact ⟨[], rfl, .ignored rfl⟩
  | install source => exact v.does_resetWith (some source)
  | uninstall => exact v.does_resetWith none
  | dataChanged => exact v.does_dataChanged
  | setLayout layout => exact v.does_setLayout layout
  | setBytesPerRow | setBytesPerColumn | setColumnSpacing | setAddressWidth | setFlipBytes
  | setBaseAddress =>
    exact v.does_setLayout _
  | setMetrics metrics => exact v.does_setMetrics metrics
  | resize width height => exact v.does_resize width height
  | setPalette | setColormap | setFirstRow | setFirstColumn =>
    exact View.does_repaint rfl rfl rfl rfl
  | setFocused focused => exact v.does_setFocused focused
  | setEnabled enabled => exact v.does_setEnabled enabled
  | setRetryInterval => exact ⟨[], (List.append_nil _).symm, .paced rfl⟩
  | scrollWheel rows => exact v.does_scrollWheel rows
  | pushLayer => exact ⟨[], (List.append_nil _).symm, .layered rfl⟩
  | colorize | uncolorize | uncolorizeAll => exact v.does_accept fun _ => v.does_setLayers
  | moveBy | moveLeft | moveRight | moveUp | moveDown | pageUp | pageDown => exact v.does_moveBy _ _
  | setCaret => exact v.does_accept fun _ => v.does_setCaret
  | setSelectionLength => exact v.does_select rfl rfl rfl
  | goto => exact v.does_accept fun _ => v.does_goto
  | setCurrentAddress => exact v.does_accept fun _ => v.does_setCurrentAddress
  | togglePane => exact v.does_togglePane
  | typeChar c => exact v.does_typeChar c
  | press x y => exact v.does_press x y
  | drag x y => exact v.does_drag x y
  | hoverAt x y => exact v.does_hoverAt x y
  | leave => exact v.does_leave
  | render now => exact v.does_render now
  | tick now => exact v.does_tick now
  | pollNow now => exact v.does_pollNow now

end HexEditor
