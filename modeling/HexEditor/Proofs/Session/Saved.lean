import HexEditor.Proofs.Session.Opened
import HexEditor.Proofs.Settings

/-!
# Saved settings

A session is used in any way, and its settings are then saved. `Session.settings_saved`: the layout
and the number of layers always are valid, but the retry interval is taken unchecked. With an
interval of zero the settings are refused when they are loaded; with any other, a view with the same
settings is restored.
-/

namespace HexEditor

def Call.interval (before : Nat) : Call σ → Nat
  | .setRetryInterval interval => interval
  | _ => before

/-- What every call keeps valid, and the retry interval, which none checks. -/
structure View.Setup.Sound (s : View.Setup) (interval : Nat) : Prop where
  layout : s.layout.Valid
  layerCount_pos : 0 < s.layerCount
  interval_eq : s.interval = interval

namespace View.Setup

variable {s : View.Setup} {interval : Nat}

theorem Sound.withSource (h : s.Sound interval) (hasSource : Bool) :
    Sound { s with hasSource } interval :=
  ⟨h.layout, h.layerCount_pos, h.interval_eq⟩

theorem Sound.arrange (h : s.Sound interval) (layout : Layout) :
    (s.arrange layout).Sound interval := by
  unfold View.Setup.arrange
  split
  next hvalid => exact ⟨Layout.validate_ok.mp hvalid, h.layerCount_pos, h.interval_eq⟩
  next => exact h

theorem Sound.call (h : s.Sound interval) (c : Call σ) :
    (c.setup s).Sound (c.interval interval) := by
  cases c with
  | setLayout | setBytesPerRow | setBytesPerColumn | setColumnSpacing | setAddressWidth
  | setFlipBytes | setBaseAddress =>
    exact h.arrange _
  | install | uninstall => exact h.withSource _
  | setPalette => exact ⟨h.layout, h.layerCount_pos, h.interval_eq⟩
  | setRetryInterval => exact ⟨h.layout, h.layerCount_pos, rfl⟩
  | pushLayer => exact ⟨h.layout, Nat.succ_pos _, h.interval_eq⟩
  | _ => exact h

end View.Setup

theorem Layers.count_ofCount (n : Nat) : (ofCount n).count = n :=
  List.length_replicate

theorem View.ofSettings_of_valid {given : Settings} (h : given.validate = .ok ()) :
    (View.ofSettings given : Except Error (View σ)) =
    .ok { layout := given.layout, palette := given.palette,
          layers := Layers.ofCount given.layerCount,
          poller := { interval := given.retryInterval } } := by
  rw [ofSettings, h]
  rfl

namespace Session

def Action.interval (before : Nat) : Action → Nat
  | .useView c => c.interval before
  | _ => before

def Sound (s : Session) (interval : Nat) : Prop :=
  s.view.setup.Sound interval

variable {s : Session} {interval : Nat}

theorem sound_ofSettings {given : Settings} (h : given.validate = .ok ()) :
    (ofSettings given).Sound given.retryInterval := by
  obtain ⟨hlayout, hcount, -⟩ := Settings.validate_ok.mp h
  rw [ofSettings, View.ofSettings_of_valid h]
  refine ⟨hlayout, ?_, rfl⟩
  simpa [View.setup, Layers.count_ofCount] using hcount

theorem Sound.call (h : s.Sound interval) (c : Call Source) :
    Sound { s with view := c.apply s.view } (c.interval interval) := by
  unfold Sound
  rw [c.setup_apply]
  exact View.Setup.Sound.call h c

theorem Sound.tryView (h : s.Sound interval) {c : Call Source} (hc : c.interval interval = interval)
    (hr : c.apply s.view = s.view.accept r) : (s.tryView r).Sound interval := by
  rw [tryView_eq, ← hr, ← hc]
  exact h.call c

theorem Sound.openFile (h : s.Sound interval) (folder : Folder) (path : String) (mode : OpenMode) :
    (s.openFile folder path mode).Sound interval := by
  unfold Session.openFile
  split
  next source _ => exact h.call (.install source)
  next => exact h

theorem Sound.setAddressWidth (h : s.Sound interval) (width : AddressWidth) :
    (s.setAddressWidth width).Sound interval := by
  have hview := h.tryView (c := .setAddressWidth width) rfl rfl
  unfold Session.setAddressWidth
  split
  · exact hview
  · exact hview

theorem Sound.refresh (h : s.Sound interval) (folder : Folder) :
    (s.refresh folder).Sound interval := by
  unfold Session.refresh
  split
  · split
    · exact View.Setup.Sound.withSource h true
    · exact h
  · exact h

theorem Sound.trySaveSettings (h : s.Sound interval) (folder : Folder) :
    (s.trySaveSettings folder).1.Sound interval := by
  obtain heq | ⟨saved, heq⟩ | ⟨text, heq⟩ := s.trySaveSettings_eq folder <;> rw [heq]
  · exact h
  · exact h.refresh saved
  · exact h

theorem Sound.choose (h : s.Sound interval) (folder : Folder) (picked : Option String)
    (item : MenuItem) :
    (s.choose folder picked item).1.Sound interval := by
  cases item with
  | openFile mode =>
    cases picked with
    | none => exact h
    | some path => exact h.openFile folder path mode
  | close =>
    change (if s.hasSource then s.close else s).Sound interval
    split
    · exact h.call .uninstall
    · exact h
  | saveSettings => exact h.trySaveSettings folder
  | bytesPerRow n => exact h.tryView (c := .setBytesPerRow n) rfl rfl
  | bytesPerColumn n => exact h.tryView (c := .setBytesPerColumn n) rfl rfl
  | addressWidth width => exact h.setAddressWidth width
  | flipBytes => exact h.tryView (c := .setFlipBytes _) rfl rfl
  | byteClasses | stackPanel | goto => exact h
  | lockView => exact h.call (.setEnabled _)
  | highlightSelection =>
    change s.highlightSelection.Sound interval
    unfold Session.highlightSelection
    split
    · exact h.tryView (c := .colorize 0 _) rfl rfl
    · exact h
  | clearHighlights =>
    exact h.tryView (c := .uncolorizeAll none) (r := s.view.uncolorizeAll none) rfl rfl

theorem Sound.goto (h : s.Sound interval) (hgoto : s.view.goto address = .ok v) :
    v.setup.Sound interval :=
  s.view.setup_goto hgoto ▸ h

theorem Sound.submitGoto (h : s.Sound interval) : s.submitGoto.Sound interval := by
  unfold Session.submitGoto
  split
  · exact h
  · split
    next hgoto => exact h.goto hgoto
    next => exact h

theorem Sound.chooseContext (h : s.Sound interval) (item : ContextItem) :
    (s.chooseContext item).2.Sound interval := by
  unfold Session.chooseContext
  split
  · exact h
  · exact h
  · split
    next hgoto => exact h.goto hgoto
    next => exact h

theorem Sound.act (h : s.Sound interval) (a : Action) : (s.act a).Sound (a.interval interval) := by
  cases a with
  | openFile folder path mode => exact h.openFile folder path mode
  | drop folder path => exact h.openFile folder path .mapped
  | choose folder picked item => exact h.choose folder picked item
  | chooseContext item => exact h.chooseContext item
  | submitGoto => exact h.submitGoto
  | install name source => exact h.call (.install source)
  | uninstall => exact h.call .uninstall
  | processEvents => exact h.call .takeEvents
  | useView c => exact h.call c
  | sourceChanges change => exact View.Setup.Sound.withSource h _
  | useStack | around => exact h

theorem Sound.run (h : s.Sound interval) (actions : List Action) :
    (actions.foldl Session.act s).Sound (actions.foldl Action.interval interval) := by
  induction actions generalizing s interval with
  | nil => exact h
  | cons a actions ih => exact ih (h.act a)

theorem Sound.validate_settings (h : s.Sound interval) : s.view.settings.validate =
    if interval % 2 ^ 64 = 0 then .error (.invalid .noRetryInterval) else .ok () := by
  have hlayout : s.view.settings.layout.validate = .ok () := Layout.validate_ok.mpr h.layout
  have hcount : s.view.settings.layerCount ≠ 0 := Nat.ne_of_gt h.layerCount_pos
  have hinterval : s.view.settings.retryInterval = interval % 2 ^ 64 :=
    congrArg (· % 2 ^ 64) h.interval_eq
  rw [Settings.validate_of_layout hlayout, if_neg hcount, hinterval]

/-- However a session was used, its settings are valid exactly if the last retry interval that was
set is not zero when cut to 64 bits. A view with the same settings is then restored from them, and
from the file that they are saved to; otherwise that file is refused. -/
theorem settings_saved (given : Settings) (hgiven : given.validate = .ok ())
    (actions : List Action) :
    let s := actions.foldl act (ofSettings given)
    let interval := actions.foldl Action.interval given.retryInterval
    s.view.poller.interval = interval ∧
    (s.view.settings.validate = if interval % 2 ^ 64 = 0 then .error (.invalid .noRetryInterval)
      else .ok ()) ∧
    (interval % 2 ^ 64 ≠ 0 → ∃ restored : View Source,
      View.ofSettings s.view.settings = .ok restored ∧
      restored.layout = s.view.layout ∧ restored.palette = s.view.palette ∧
      restored.poller.interval = interval % 2 ^ 64 ∧ restored.layers.count = s.view.layers.count) ∧
    ∀ folder path saved, s.view.layout.baseAddress < 2 ^ 64 → s.view.layers.count < 2 ^ 64 →
      s.view.settings.save folder path = .ok saved →
      Settings.load saved path =
        if interval % 2 ^ 64 = 0 then .error (.invalid (.invalid .noRetryInterval))
        else .ok s.view.settings := by
  intro s interval
  have h : s.Sound interval := (sound_ofSettings hgiven).run actions
  have hvalidate := h.validate_settings
  refine ⟨h.interval_eq, hvalidate, fun hpos => ?_, fun folder path saved hbase hcount hsave => ?_⟩
  · rw [if_neg hpos] at hvalidate
    refine ⟨_, View.ofSettings_of_valid hvalidate, rfl, rfl, ?_, Layers.count_ofCount _⟩
    exact congrArg (· % 2 ^ 64) h.interval_eq
  · have hfits : s.view.settings.Fits := ⟨hbase, Nat.mod_lt _ (by decide), hcount⟩
    obtain ⟨haccepted, hrefused⟩ := Settings.load_of_save h.layout hfits hsave
    split at hvalidate
    next hzero => rw [if_pos hzero, hrefused _ hvalidate]
    next hpos => rw [if_neg hpos, haccepted hvalidate]

/-- A file is opened, a layer is pushed and the interval is set to a quarter of a second; the
settings are saved and loaded. -/
theorem settings_saved_quarter :
    let actions : List Action :=
      [.openFile ⟨[("a", #[1, 2, 3])]⟩ "a" .remote, .useView .pushLayer,
        .useView (.setRetryInterval 250)]
    let s := actions.foldl act (ofSettings {})
    ({} : Settings).validate = .ok () ∧
      (∃ restored : View Source, View.ofSettings s.view.settings = .ok restored ∧
        restored.layout = s.view.layout ∧
        restored.palette = s.view.palette ∧ restored.poller.interval = 250 ∧
          restored.layers.count = 11) ∧
      ∃ saved, s.view.settings.save ⟨[("settings.json", #[])]⟩ "settings.json" = .ok saved ∧
        Settings.load saved "settings.json" = .ok s.view.settings := by
  intro actions s
  obtain ⟨-, -, hrestored, hload⟩ := settings_saved {} rfl actions
  obtain ⟨restored, hrestored, hlayout, hpalette, hinterval, hcount⟩ := hrestored (by decide)
  have hread : Folder.read ⟨[("settings.json", #[])]⟩ "settings.json" = .ok #[] := rfl
  obtain ⟨saved, hsaved⟩ := Folder.exists_write_of_read hread s.view.settings.encode
  exact ⟨rfl, ⟨restored, hrestored, hlayout, hpalette, hinterval, hcount⟩, saved, hsaved,
    hload _ _ saved (by decide) (by decide) hsaved⟩

/-- An interval of zero is set, and no view can be restored. -/
theorem settings_saved_never :
    let s := [Action.useView (.setRetryInterval 0)].foldl act (ofSettings {})
    s.view.poller.interval = 0 ∧ s.view.settings.validate = .error (.invalid .noRetryInterval) ∧
      (View.ofSettings s.view.settings : Except Error (View Source)) =
      .error (.invalid .noRetryInterval) :=
  ⟨rfl, rfl, rfl⟩

end Session

end HexEditor
