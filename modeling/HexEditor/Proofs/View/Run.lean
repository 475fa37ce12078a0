import HexEditor.Proofs.Layout
import HexEditor.Proofs.Poller
import HexEditor.Settings
import HexEditor.View

/-!
# Runs of a view

What a host can do to a view: `Call` has a case for each function that may change it, and a call
that fails changes nothing. A view is `Reachable` if it comes from a new one, or from one with valid
settings, by calls and by changes that the source undergoes on its own.

`Call.targets` lists the fields of a view that a call can change, and `Call.frame` says that it
leaves the others alone. `Call.step` says all that a call can do to the source, the poller, the
layout and the font.
-/

namespace HexEditor

inductive Call (σ : Type)
  | install (source : σ)
  | uninstall
  | dataChanged
  | setLayout (layout : Layout)
  | setBytesPerRow (bytesPerRow : Nat)
  | setBytesPerColumn (bytesPerColumn : Nat)
  | setColumnSpacing (columnSpacing : Nat)
  | setAddressWidth (addressWidth : AddressWidth)
  | setFlipBytes (flipBytes : Bool)
  | setBaseAddress (baseAddress : Nat)
  | setMetrics (metrics : Metrics)
  | resize (width height : Nat)
  | setPalette (palette : Palette)
  | setColormap (colormap : Option Colormap)
  | setFocused (focused : Bool)
  | setEnabled (enabled : Bool)
  | setRetryInterval (interval : Nat)
  | setFirstRow (row : Nat)
  | setFirstColumn (column : Nat)
  | scrollWheel (rows : Int)
  | pushLayer
  | colorize (layer : Nat) (h : Highlight)
  | uncolorize (layer : Nat) (span : ByteRange)
  | uncolorizeAll (layer : Option Nat)
  | moveBy (delta : Int) (extend : Bool)
  | moveLeft (extend : Bool)
  | moveRight (extend : Bool)
  | moveUp (extend : Bool)
  | moveDown (extend : Bool)
  | pageUp (extend : Bool)
  | pageDown (extend : Bool)
  | setCaret (nibble : Nat)
  | setSelectionLength (length : Int)
  | goto (address : Nat)
  | setCurrentAddress (address : Nat)
  | togglePane
  | typeChar (c : Char)
  | press (x y : Int)
  | drag (x y : Int)
  | hoverAt (x y : Int)
  | leave
  | render (now : Nat)
  | tick (now : Nat)
  | pollNow (now : Nat)
  | takeEvents

def View.accept (v : View σ) : Except Error (View σ) → View σ
  | .ok changed => changed
  | .error _ => v

def Call.apply [ByteSource σ] (v : View σ) : Call σ → View σ
  | install source => v.install source
  | uninstall => v.uninstall
  | dataChanged => v.dataChanged
  | setLayout layout => v.accept (v.setLayout layout)
  | setBytesPerRow bytesPerRow => v.accept (v.setBytesPerRow bytesPerRow)
  | setBytesPerColumn bytesPerColumn => v.accept (v.setBytesPerColumn bytesPerColumn)
  | setColumnSpacing columnSpacing => v.accept (v.setColumnSpacing columnSpacing)
  | setAddressWidth addressWidth => v.accept (v.setAddressWidth addressWidth)
  | setFlipBytes flipBytes => v.accept (v.setFlipBytes flipBytes)
  | setBaseAddress baseAddress => v.accept (v.setBaseAddress baseAddress)
  | setMetrics metrics => v.accept (v.setMetrics metrics)
  | resize width height => v.resize width height
  | setPalette palette => v.setPalette palette
  | setColormap colormap => v.setColormap colormap
  | setFocused focused => v.setFocused focused
  | setEnabled enabled => v.setEnabled enabled
  | setRetryInterval interval => v.setRetryInterval interval
  | setFirstRow row => v.setFirstRow row
  | setFirstColumn column => v.setFirstColumn column
  | scrollWheel rows => v.scrollWheel rows
  | pushLayer => v.pushLayer
  | colorize layer h => v.accept (v.colorize layer h)
  | uncolorize layer span => v.accept (v.uncolorize layer span)
  | uncolorizeAll layer => v.accept (v.uncolorizeAll layer)
  | moveBy delta extend => v.moveBy delta extend
  | moveLeft extend => v.moveLeft extend
  | moveRight extend => v.moveRight extend
  | moveUp extend => v.moveUp extend
  | moveDown extend => v.moveDown extend
  | pageUp extend => v.pageUp extend
  | pageDown extend => v.pageDown extend
  | setCaret nibble => v.accept (v.setCaret nibble)
  | setSelectionLength length => v.setSelectionLength length
  | goto address => v.accept (v.goto address)
  | setCurrentAddress address => v.accept (v.setCurrentAddress address)
  | togglePane => v.togglePane
  | typeChar c => (v.typeChar c).2
  | press x y => v.press x y
  | drag x y => v.drag x y
  | hoverAt x y => v.hoverAt x y
  | leave => v.leave
  | render now => (v.render now).2
  | tick now => v.tick now
  | pollNow now => v.pollNow now
  | takeEvents => v.takeEvents.2

/-- Views that a host can bring about, with sources that may change on their own as `Outside`
allows. -/
inductive View.Reachable [ByteSource σ] (Outside : σ → σ → Prop) : View σ → Prop
  | new : Reachable Outside {}
  | ofSettings {given : Settings} (h : View.ofSettings given = .ok v) : Reachable Outside v
  | call (h : Reachable Outside v) (c : Call σ) : Reachable Outside (c.apply v)
  | outside (h : Reachable Outside v) (hs : v.source = some s) (ho : Outside s s') :
      Reachable Outside { v with source := some s' }

theorem exists_of_map_ok {f : α → β} {x : Except ε α} (h : f <$> x = .ok b) :
    ∃ a, x = .ok a ∧ f a = b := by
  cases x with
  | ok a => exact ⟨a, rfl, Except.ok.inj h⟩
  | error => cases h

-- ---------------------------------------------------------------------------
-- Fields that a call can change
-- ---------------------------------------------------------------------------

inductive View.Field
  | source | layout | metrics | palette | selection | viewport | layers | colormap | poller
  | activePane | hover | focused | enabled | events
deriving DecidableEq

/-- A view with some fields of another one. -/
def View.patch (v : View σ) (fields : List Field) (w : View σ) : View σ where
  source := if .source ∈ fields then w.source else v.source
  layout := if .layout ∈ fields then w.layout else v.layout
  metrics := if .metrics ∈ fields then w.metrics else v.metrics
  palette := if .palette ∈ fields then w.palette else v.palette
  selection := if .selection ∈ fields then w.selection else v.selection
  viewport := if .viewport ∈ fields then w.viewport else v.viewport
  layers := if .layers ∈ fields then w.layers else v.layers
  colormap := if .colormap ∈ fields then w.colormap else v.colormap
  poller := if .poller ∈ fields then w.poller else v.poller
  activePane := if .activePane ∈ fields then w.activePane else v.activePane
  hover := if .hover ∈ fields then w.hover else v.hover
  focused := if .focused ∈ fields then w.focused else v.focused
  enabled := if .enabled ∈ fields then w.enabled else v.enabled
  events := if .events ∈ fields then w.events else v.events

def Call.targets : Call σ → List View.Field
  | install _ | uninstall => [.source, .poller, .selection, .viewport, .hover, .events]
  | dataChanged => [.selection, .viewport, .events]
  | setLayout _ | setBytesPerRow _ | setBytesPerColumn _ | setColumnSpacing _ | setAddressWidth _
  | setFlipBytes _ | setBaseAddress _ => [.layout, .viewport, .events]
  | setMetrics _ => [.metrics, .viewport, .events]
  | resize _ _ | setFirstRow _ | setFirstColumn _ | scrollWheel _ => [.viewport, .events]
  | setPalette _ => [.palette, .events]
  | setColormap _ => [.colormap, .events]
  | setFocused _ => [.focused, .events]
  | setEnabled _ => [.enabled, .hover, .events]
  | setRetryInterval _ => [.poller]
  | pushLayer => [.layers]
  | colorize _ _ | uncolorize _ _ | uncolorizeAll _ => [.layers, .events]
  | moveBy _ _ | moveLeft _ | moveRight _ | moveUp _ | moveDown _ | pageUp _ | pageDown _
  | setCaret _ | setSelectionLength _ | goto _ | setCurrentAddress _ | drag _ _ =>
    [.selection, .viewport, .events]
  | togglePane | press _ _ => [.selection, .activePane, .events]
  | typeChar _ => [.source, .selection, .viewport, .events]
  | hoverAt _ _ | leave => [.hover, .events]
  | render _ | pollNow _ => [.source, .poller, .events]
  | tick _ => [.source, .poller, .selection, .viewport, .events]
  | takeEvents => [.events]

namespace View

theorem patch_self (v : View σ) (fields : List Field) : v.patch fields v = v := by
  simp only [patch, ite_self]

theorem patch_accept {v : View σ} (h : ∀ w, r = .ok w → w = v.patch fields w) :
    v.accept r = v.patch fields (v.accept r) := by
  cases r with
  | ok w => exact h w rfl
  | error => exact (v.patch_self fields).symm

variable [ByteSource σ] (v : View σ)

theorem patch_resetWith (source : Option σ) :
    v.resetWith source =
      v.patch [.source, .poller, .selection, .viewport, .hover, .events] (v.resetWith source) := by
  unfold resetWith
  simp only
  split <;> rfl

theorem setLayout_ok (h : v.setLayout l = .ok w) :
    l.validate = .ok () ∧ (w = v ∨ w = { v with layout := l }.layoutChanged) := by
  unfold setLayout at h
  cases hl : l.validate with
  | error e =>
    rw [hl] at h
    cases h
  | ok =>
    rw [hl] at h
    by_cases hsame : l = v.layout
    · exact ⟨rfl, .inl (Except.ok.inj h ▸ if_pos hsame)⟩
    · exact ⟨rfl, .inr (Except.ok.inj h ▸ if_neg hsame)⟩

theorem setMetrics_ok (h : v.setMetrics m = .ok w) :
    m.validate = .ok () ∧ (w = v ∨ w = { v with metrics := m }.layoutChanged) := by
  unfold setMetrics at h
  cases hm : m.validate with
  | error e =>
    rw [hm] at h
    cases h
  | ok =>
    rw [hm] at h
    by_cases hsame : m = v.metrics
    · exact ⟨rfl, .inl (Except.ok.inj h ▸ if_pos hsame)⟩
    · exact ⟨rfl, .inr (Except.ok.inj h ▸ if_neg hsame)⟩

theorem resize_cases (width height : Nat) :
    v.resize width height = v ∨ ∃ u : View σ, v.resize width height = u.layoutChanged := by
  unfold resize
  split
  · exact .inl rfl
  · exact .inr ⟨_, rfl⟩

/-- A layout that is refused or not new changes nothing, and any other one arranges the grid
anew. -/
theorem setLayout_cases (layout : Layout) : v.accept (v.setLayout layout) = v ∨
    ∃ u : View σ, v.accept (v.setLayout layout) = u.layoutChanged := by
  cases hw : v.setLayout layout with
  | error => exact .inl rfl
  | ok w =>
    obtain ⟨-, rfl | rfl⟩ := v.setLayout_ok hw
    · exact .inl rfl
    · exact .inr ⟨_, rfl⟩

theorem setMetrics_cases (metrics : Metrics) : v.accept (v.setMetrics metrics) = v ∨
    ∃ u : View σ, v.accept (v.setMetrics metrics) = u.layoutChanged := by
  cases hw : v.setMetrics metrics with
  | error => exact .inl rfl
  | ok w =>
    obtain ⟨-, rfl | rfl⟩ := v.setMetrics_ok hw
    · exact .inl rfl
    · exact .inr ⟨_, rfl⟩

theorem patch_setLayout (layout : Layout) :
    v.accept (v.setLayout layout) =
      v.patch [.layout, .viewport, .events] (v.accept (v.setLayout layout)) := by
  refine patch_accept fun w hw => ?_
  obtain ⟨-, rfl | rfl⟩ := v.setLayout_ok hw <;> rfl

theorem patch_moveBy (delta : Int) (extend : Bool) :
    v.moveBy delta extend = v.patch [.selection, .viewport, .events] (v.moveBy delta extend) := by
  unfold moveBy
  simp only
  split <;> rfl

theorem patch_setCaret (h : v.setCaret nibble = .ok w) :
    w = v.patch [.selection, .viewport, .events] w := by
  obtain ⟨selection, -, rfl⟩ := exists_of_map_ok h
  rfl

theorem revealCaret_eq (v : View σ) :
    v.revealCaret =
      if v.ensureCaretVisible.viewport.firstRow = v.viewport.firstRow then v.ensureCaretVisible
      else v.ensureCaretVisible.emit .repaintRequested := by
  unfold revealCaret Viewport.reveal
  simp only [decide_eq_true_eq, ite_not]
  rfl

/-- A caret that is on the byte already is only brought on screen. -/
theorem goto_ok (h : v.goto address = .ok w) :
    (∃ nibble, v.setCaret nibble = .ok w) ∨
      w = if v.ensureCaretVisible.viewport.firstRow = v.viewport.firstRow then v.ensureCaretVisible
        else v.ensureCaretVisible.emit .repaintRequested := by
  rw [← revealCaret_eq]
  unfold goto at h
  simp only at h
  generalize (if v.layout.baseAddress ≤ address then address - v.layout.baseAddress else address) =
    offset at h
  split at h
  · cases h
  split at h
  · exact .inr (Except.ok.inj h).symm
  · exact .inl ⟨_, h⟩

theorem setCurrentAddress_ok (h : v.setCurrentAddress address = .ok w) :
    ∃ nibble, v.setCaret nibble = .ok w := by
  unfold setCurrentAddress at h
  simp only at h
  split at h
  · exact ⟨_, h⟩
  · cases h

theorem patch_goto (h : v.goto address = .ok w) :
    w = v.patch [.selection, .viewport, .events] w := by
  obtain ⟨nibble, hcaret⟩ | rfl := v.goto_ok h
  · exact v.patch_setCaret hcaret
  · split <;> rfl

end View

/-- A call leaves alone what is not among its targets. -/
theorem Call.frame [ByteSource σ] (c : Call σ) (v : View σ) :
    c.apply v = v.patch c.targets (c.apply v) := by
  cases c with
  | install | uninstall => exact v.patch_resetWith _
  | setLayout | setBytesPerRow | setBytesPerColumn | setColumnSpacing | setAddressWidth
  | setFlipBytes
  | setBaseAddress => exact v.patch_setLayout _
  | setMetrics =>
    refine View.patch_accept fun w hw => ?_
    obtain ⟨-, rfl | rfl⟩ := v.setMetrics_ok hw <;> rfl
  | colorize | uncolorize | uncolorizeAll =>
    refine View.patch_accept fun w hw => ?_
    obtain ⟨layers, -, rfl⟩ := exists_of_map_ok hw
    rfl
  | moveBy | moveLeft | moveRight | moveUp | moveDown | pageUp | pageDown =>
    exact v.patch_moveBy _ _
  | setCaret => exact View.patch_accept fun _ => v.patch_setCaret
  | goto => exact View.patch_accept fun _ => v.patch_goto
  | setCurrentAddress =>
    refine View.patch_accept fun w hw => ?_
    obtain ⟨nibble, hcaret⟩ := v.setCurrentAddress_ok hw
    exact v.patch_setCaret hcaret
  | setPalette | setColormap | setFirstRow | setFirstColumn | setRetryInterval | pushLayer
  | setSelectionLength | takeEvents => rfl
  | dataChanged | resize | setFocused | setEnabled | scrollWheel | hoverAt | leave =>
    simp only [apply, View.dataChanged, View.resize, View.setFocused, View.setEnabled,
      View.scrollWheel,
      View.hoverAt, View.leave]
    split <;> rfl
  -- Whatever branch these take, it is an update of the targets.
  | togglePane | typeChar | press | drag | render | tick | pollNow =>
    simp only [apply, View.togglePane, View.typeChar, View.press, View.drag, View.render,
      View.fetch,
      View.tick, View.dataChanged, View.pollNow]
    repeat' split
    all_goals rfl

/-- What does not depend on the targets of a call is kept. -/
theorem Call.keeps [ByteSource σ] (c : Call σ) (v : View σ) (f : View σ → α)
    (h : ∀ w, f (v.patch c.targets w) = f v) : f (c.apply v) = f v :=
  (congrArg f (c.frame v)).trans (h _)

-- ---------------------------------------------------------------------------
-- Source, poller, layout and font
-- ---------------------------------------------------------------------------

/-- The part of a view that decides what can be drawn and how it is arranged. -/
structure View.Core (σ : Type) where
  source : Option σ
  poller : Poller
  layout : Layout
  metrics : Metrics

namespace View

def core (v : View σ) : Core σ :=
  ⟨v.source, v.poller, v.layout, v.metrics⟩

inductive Core.Step [ByteSource σ] (c : Core σ) : Core σ → Prop
  | keep : Step c c
  | reset (source : Option σ) : Step c { c with source, poller := c.poller.reset }
  | layout (h : l.validate = .ok ()) : Step c { c with layout := l }
  | metrics (h : m.validate = .ok ()) : Step c { c with metrics := m }
  | interval (n : Nat) : Step c { c with poller := { c.poller with interval := n } }
  | write (hs : c.source = some s) (hw : ByteSource.write s offset new = .ok s') :
      Step c { c with source := some s' }
  | fetch (hs : c.source = some s)
      (hr : region.IsEmpty ∨ region.offset + region.length ≤ ByteSource.length s) (now : Nat) :
      Step c { c with
        poller := (c.poller.fetch s region now).2.1
        source := some (c.poller.fetch s region now).2.2 }
  | tick (hs : c.source = some s) (now : Nat) :
      Step c { c with
        poller := (c.poller.tick (ByteSource.takeChange s).2 now).2.1
        source := some (c.poller.tick (ByteSource.takeChange s).2 now).2.2 }
  | pollNow (hs : c.source = some s) (now : Nat) :
      Step c { c with
        poller := (c.poller.pollNow s now).2.1
        source := some (c.poller.pollNow s now).2.2 }

variable [ByteSource σ] (v : View σ)

theorem core_dataChanged : v.dataChanged.core = v.core :=
  Call.dataChanged.keeps v core fun _ => rfl

theorem core_resetWith (source : Option σ) :
    (v.resetWith source).core = { v.core with source, poller := v.poller.reset } := by
  unfold resetWith
  simp only
  split <;> rfl

theorem step_resetWith (source : Option σ) : v.core.Step (v.resetWith source).core := by
  rw [core_resetWith]
  exact .reset source

theorem step_setLayout (layout : Layout) : v.core.Step (v.accept (v.setLayout layout)).core := by
  cases h : v.setLayout layout with
  | error e => exact .keep
  | ok w =>
    obtain ⟨hl, rfl | rfl⟩ := v.setLayout_ok h
    · exact .keep
    · exact .layout hl

theorem step_setMetrics (metrics : Metrics) :
    v.core.Step (v.accept (v.setMetrics metrics)).core := by
  cases h : v.setMetrics metrics with
  | error e => exact .keep
  | ok w =>
    obtain ⟨hm, rfl | rfl⟩ := v.setMetrics_ok h
    · exact .keep
    · exact .metrics hm

theorem visibleRange_le (hs : v.source = some s) :
    v.visibleRange.IsEmpty ∨ v.visibleRange.offset + v.visibleRange.length ≤
      ByteSource.length s := by
  have hlength : v.grid.length = ByteSource.length s := by
    change v.length = _
    rw [View.length, hs]
    rfl
  simp only [visibleRange, Grid.shownRange, ByteRange.IsEmpty, Grid.shownBytes, hlength]
  omega

theorem step_render (now : Nat) : v.core.Step (v.render now).2.core := by
  unfold render fetch
  cases hs : v.source with
  | none =>
    exact .keep
  | some source =>
    have hstep := Core.Step.fetch (c := v.core) hs (v.visibleRange_le hs) now
    simp only
    split
    · exact hstep
    · exact hstep

theorem step_tick (now : Nat) : v.core.Step (v.tick now).core := by
  unfold tick
  cases hs : v.source with
  | none => exact .keep
  | some source =>
    have hstep := Core.Step.tick (c := v.core) hs now
    have hchanged (changed : Bool) (w : View σ) :
        (if changed then w.dataChanged else w).core = w.core := by
      split
      · exact w.core_dataChanged
      · rfl
    simp only
    split
    · -- The events of a changed status are not part of it.
      change Core.Step _ (View.core (if _ then _ else _))
      rw [hchanged]
      exact hstep
    · rw [hchanged]
      exact hstep

theorem step_pollNow (now : Nat) : v.core.Step (v.pollNow now).core := by
  unfold pollNow
  cases hs : v.source with
  | none => exact .keep
  | some source =>
    have hstep := Core.Step.pollNow (c := v.core) hs now
    simp only
    split
    · exact hstep
    · exact hstep

theorem applyChar_write (h : v.applyChar c = .ok (edit, source')) :
    ∃ source, v.source = some source ∧ ByteSource.write source edit.offset #[edit.value] =
      .ok source' := by
  unfold applyChar at h
  cases hs : v.source with
  | none =>
    rw [hs] at h
    cases h
  | some source =>
    rw [hs] at h
    simp only at h
    repeat' split at h
    all_goals cases h
    exact ⟨source, rfl, ‹_›⟩

theorem step_typeChar (c : Char) : v.core.Step (v.typeChar c).2.core := by
  unfold typeChar
  cases h : v.applyChar c with
  | error reason => exact .keep
  | ok outcome =>
    obtain ⟨source, hs, hw⟩ := v.applyChar_write h
    exact .write hs hw

end View

/-- All that a call can do to source, poller, layout and font. -/
theorem Call.step [ByteSource σ] (c : Call σ) (v : View σ) : v.core.Step (c.apply v).core := by
  have hkeep {w : View σ} (h : w.core = v.core) : v.core.Step w.core := h ▸ .keep
  cases c with
  | install source => exact v.step_resetWith (some source)
  | uninstall => exact v.step_resetWith none
  | setLayout | setBytesPerRow | setBytesPerColumn | setColumnSpacing | setAddressWidth
  | setFlipBytes
  | setBaseAddress => exact v.step_setLayout _
  | setMetrics metrics => exact v.step_setMetrics metrics
  | setRetryInterval interval => exact .interval interval
  | typeChar c => exact v.step_typeChar c
  | render now => exact v.step_render now
  | tick now => exact v.step_tick now
  | pollNow now => exact v.step_pollNow now
  | _ => exact hkeep (Call.keeps _ v View.core fun _ => rfl)

-- ---------------------------------------------------------------------------
-- Runs
-- ---------------------------------------------------------------------------

namespace View

theorem core_ofSettings {v : View σ} (h : ofSettings given = .ok v) :
    given.layout.validate = .ok () ∧
      v.core = ⟨none, { interval := given.retryInterval }, given.layout, {}⟩ := by
  unfold ofSettings Settings.validate at h
  cases hl : given.layout.validate with
  | error e =>
    rw [hl] at h
    cases h
  | ok =>
    rw [hl] at h
    simp only [bind, Except.bind, pure, Except.pure, throw, throwThe, MonadExceptOf.throw] at h
    split at h
    · cases h
    · cases h
      exact ⟨rfl, rfl⟩

theorem ofSettings_ok {v : View σ} (h : ofSettings given = .ok v) :
    v = { layout := given.layout, palette := given.palette,
          layers := Layers.ofCount given.layerCount,
          poller := { interval := given.retryInterval } } := by
  unfold ofSettings at h
  cases hvalid : given.validate with
  | error e =>
    rw [hvalid] at h
    cases h
  | ok =>
    rw [hvalid] at h
    cases h
    rfl

variable [ByteSource σ] {v : View σ}

/-- What holds of a new view and is kept by every step holds of every view that can be reached. -/
theorem Reachable.core_induction {Outside : σ → σ → Prop} {P : Core σ → Prop}
    (new : ∀ interval layout, layout.validate = .ok () → P ⟨none, { interval }, layout, {}⟩)
    (step : ∀ c c', P c → c.Step c' → P c')
    (outside : ∀ c s s', P c → c.source = some s → Outside s s' → P { c with source := some s' })
    (h : Reachable Outside v) : P v.core := by
  induction h with
  | new => exact new 1000 {} rfl
  | ofSettings h =>
    obtain ⟨hl, hcore⟩ := core_ofSettings h
    rw [hcore]
    exact new _ _ hl
  | call h c ih => exact step _ _ ih (c.step _)
  | outside h hs ho ih => exact outside _ _ _ ih hs ho

theorem Core.Step.valid {c c' : Core σ} (h : c.Step c') (hc : c.layout.Valid ∧ c.metrics.Valid) :
    c'.layout.Valid ∧ c'.metrics.Valid := by
  cases h with
  | layout hl => exact ⟨Layout.validate_ok.mp hl, hc.2⟩
  | metrics hm => exact ⟨hc.1, Metrics.validate_ok.mp hm⟩
  | keep | reset | interval | write | fetch | tick | pollNow => exact hc

theorem Reachable.valid {Outside : σ → σ → Prop} (h : Reachable Outside v) : v.grid.Valid := by
  obtain ⟨hl, hm⟩ := h.core_induction (P := fun c => c.layout.Valid ∧ c.metrics.Valid)
    (fun _ _ hl => ⟨Layout.validate_ok.mp hl, Metrics.validate_ok.mp rfl⟩)
    (fun _ _ hc hstep => hstep.valid hc)
    (fun _ _ _ hc _ _ => hc)
  exact ⟨hl, hm⟩

/-- Polls are armed only while bytes are missing, and none are missing without a source. -/
structure Core.Watched (c : Core σ) : Prop where
  coherent : c.poller.Coherent
  defined : c.source = none → c.poller.status = .defined

theorem Core.Step.watched {c c' : Core σ} (h : c.Step c') (hc : c.Watched) : c'.Watched := by
  cases h with
  | keep => exact hc
  | layout | metrics | interval => exact ⟨hc.coherent, hc.defined⟩
  | reset => exact ⟨Poller.Coherent.reset _, fun _ => rfl⟩
  | write => exact ⟨hc.coherent, nofun⟩
  | fetch => exact ⟨hc.coherent.fetch _ _ _ _, nofun⟩
  | tick => exact ⟨(Poller.asked_tick _ _ _).coherent hc.coherent, nofun⟩
  | pollNow => exact ⟨(Poller.asked_pollNow _ _ _).coherent hc.coherent, nofun⟩

theorem Reachable.watched {Outside : σ → σ → Prop} (h : Reachable Outside v) : v.core.Watched := by
  refine h.core_induction ?_ (fun _ _ hc hstep => hstep.watched hc) ?_
  · intro interval layout hl
    exact ⟨nofun, fun _ => rfl⟩
  · intro c s s' hc hs ho
    exact ⟨hc.coherent, nofun⟩

end View

end HexEditor
