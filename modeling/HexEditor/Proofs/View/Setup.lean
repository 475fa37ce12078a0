import HexEditor.Proofs.View.Effect

/-!
# What a view is set up with

Whether a view has a source, how it arranges and colors the bytes, how often it asks for missing
ones, and how many layers it has. `Call.setup_apply` says what each call makes of these, whatever
else the view has been through: most calls leave them alone.
-/

namespace HexEditor

structure View.Setup where
  hasSource : Bool
  layout : Layout
  palette : Palette
  interval : Nat
  layerCount : Nat
deriving DecidableEq, Repr

def View.Setup.arrange (s : Setup) (layout : Layout) : Setup :=
  match layout.validate with
  | .ok () => { s with layout }
  | .error _ => s

def Call.setup (s : View.Setup) : Call σ → View.Setup
  | .install _ => { s with hasSource := true }
  | .uninstall => { s with hasSource := false }
  | .setLayout layout => s.arrange layout
  | .setBytesPerRow bytesPerRow => s.arrange { s.layout with bytesPerRow }
  | .setBytesPerColumn bytesPerColumn => s.arrange { s.layout with bytesPerColumn }
  | .setColumnSpacing columnSpacing => s.arrange { s.layout with columnSpacing }
  | .setAddressWidth addressWidth => s.arrange { s.layout with addressWidth }
  | .setFlipBytes flipBytes => s.arrange { s.layout with flipBytes }
  | .setBaseAddress baseAddress => s.arrange { s.layout with baseAddress }
  | .setPalette palette => { s with palette }
  | .setRetryInterval interval => { s with interval }
  | .pushLayer => { s with layerCount := s.layerCount + 1 }
  | _ => s

-- ---------------------------------------------------------------------------
-- Layers and polls
-- ---------------------------------------------------------------------------

namespace Layers

theorem count_modify {ls ls' : Layers} (h : ls.modify layer f = .ok ls') :
    ls'.count = ls.count := by
  unfold modify at h
  split at h
  · cases h
    exact List.length_modify ..
  · cases h

theorem count_remove {ls ls' : Layers} (h : ls.remove layer span = .ok ls') :
    ls'.count = ls.count := by
  unfold remove at h
  split at h
  · cases h
  · exact count_modify h

theorem count_clear {ls ls' : Layers} (h : ls.clear layer = .ok ls') : ls'.count = ls.count := by
  cases layer with
  | some layer => exact count_modify h
  | none =>
    cases h
    exact List.length_map _

end Layers

-- ---------------------------------------------------------------------------
-- Calls
-- ---------------------------------------------------------------------------

namespace View

def setup (v : View σ) : Setup :=
  ⟨v.source.isSome, v.layout, v.palette, v.poller.interval, v.layers.count⟩

theorem setup_setLayers (v : View σ) {r : Except Error Layers}
    (h : ∀ ls, r = .ok ls → ls.count = v.layers.count) :
    (v.accept (v.setLayers <$> r)).setup = v.setup := by
  cases r with
  | error => rfl
  | ok ls => exact congrArg (Setup.mk _ _ _ _) (h ls rfl)

variable [ByteSource σ] (v : View σ)

theorem setup_resetWith (source : Option σ) :
    (v.resetWith source).setup = { v.setup with hasSource := source.isSome } := by
  unfold resetWith
  simp only
  split <;> rfl

theorem setup_dataChanged : v.dataChanged.setup = v.setup := by
  unfold dataChanged
  simp only
  split <;> rfl

theorem setup_setLayout (layout : Layout) :
    (v.accept (v.setLayout layout)).setup = v.setup.arrange layout := by
  unfold setLayout Setup.arrange
  cases layout.validate with
  | error e => rfl
  | ok =>
    change (if layout = v.layout then v else _).setup = _
    split
    · rename_i hsame
      rw [hsame]
      rfl
    · rfl

theorem setup_goto (h : v.goto address = .ok w) : w.setup = v.setup := by
  rw [v.patch_goto h]
  rfl

theorem setup_typeChar (c : Char) : (v.typeChar c).2.setup = v.setup := by
  unfold typeChar
  cases h : v.applyChar c with
  | error reason => rfl
  | ok outcome =>
    obtain ⟨source, hs, -⟩ := v.applyChar_write h
    simp only [setup, hs]
    rfl

theorem setup_render (now : Nat) : (v.render now).2.setup = v.setup := by
  cases hs : v.source with
  | none => rw [render, fetch, hs]
  | some s =>
    rw [v.render_view hs now]
    simp only [setup, hs, Poller.interval_fetch]
    rfl

theorem setup_pollNow (now : Nat) : (v.pollNow now).setup = v.setup := by
  cases hs : v.source with
  | none => rw [pollNow, hs]
  | some s =>
    rw [v.pollNow_eq hs now]
    simp only [setup, hs, (v.poller.asked_pollNow s now).interval]
    rfl

theorem setup_tick (now : Nat) : (v.tick now).setup = v.setup := by
  cases hs : v.source with
  | none => rw [tick, hs]
  | some s =>
    rw [v.tick_eq hs]
    simp only
    have hasked := (v.poller.asked_tick (ByteSource.takeChange s).2 now).interval
    generalize v.poller.tick (ByteSource.takeChange s).2 now = poll at hasked
    have hnoted (changed : Bool) (w : View σ) :
        View.setup { (if changed then w.dataChanged else w) with poller := poll.2.1 } =
          { w.setup with interval := poll.2.1.interval } := by
      split
      · exact congrArg (fun s : Setup => { s with interval := poll.2.1.interval })
          w.setup_dataChanged
      · rfl
    have hkept :
        { View.setup { v with source := some poll.2.2 } with interval := poll.2.1.interval } =
        v.setup := by
      simp [setup, hs, hasked]
    split
    · exact (hnoted _ _).trans hkept
    · exact (hnoted _ _).trans hkept

end View

/-- All that a call can do to what the view is set up with. -/
theorem Call.setup_apply [ByteSource σ] (c : Call σ) (v : View σ) :
    (c.apply v).setup = c.setup v.setup := by
  cases c with
  | install source => exact v.setup_resetWith (some source)
  | uninstall => exact v.setup_resetWith none
  | setLayout | setBytesPerRow | setBytesPerColumn | setColumnSpacing | setAddressWidth
  | setFlipBytes
  | setBaseAddress => exact v.setup_setLayout _
  | setPalette | setRetryInterval => rfl
  | pushLayer => exact congrArg (View.Setup.mk _ _ _ _) List.length_append
  | colorize => exact v.setup_setLayers fun _ => Layers.count_modify
  | uncolorize => exact v.setup_setLayers fun _ => Layers.count_remove
  | uncolorizeAll => exact v.setup_setLayers fun _ => Layers.count_clear
  | typeChar c => exact v.setup_typeChar c
  | render now => exact v.setup_render now
  | tick now => exact v.setup_tick now
  | pollNow now => exact v.setup_pollNow now
  | _ => exact Call.keeps _ v View.setup fun _ => rfl

end HexEditor
