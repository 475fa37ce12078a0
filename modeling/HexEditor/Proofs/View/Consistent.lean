import HexEditor.Proofs.Source.Memory
import HexEditor.Proofs.View.Bounds
import HexEditor.Proofs.View.Resident

/-!
# Views stay consistent

Layout, font, selection and scroll position of a view fit each other and the length of its source.
Every call keeps it so, as long as a source has the length that it was installed with: a call that
changes one of them brings the others in line.

A memory whose content is replaced has another length before the view knows of it. `Run.consistent`
says that the view is consistent again after the next tick, whatever is called meanwhile.
-/

namespace HexEditor

namespace View

/-- Layout and font are valid, the selection ends where the data ends, and the scroll position lies
within up-to-date extents. -/
structure Consistent [ByteSource σ] (v : View σ) : Prop where
  layout : v.layout.validate = .ok ()
  metrics : v.metrics.validate = .ok ()
  limit : v.selection.limit = 2 * v.length
  exact : v.selection.Exact
  fits : v.viewport.Fits v.grid

variable [ByteSource σ] {v w : View σ}

theorem Consistent.congr (h : v.Consistent) (hlayout : w.layout = v.layout)
    (hmetrics : w.metrics = v.metrics) (hselection : w.selection = v.selection)
    (hviewport : w.viewport = v.viewport) (hlength : w.length = v.length) :
    w.Consistent where
  layout := hlayout ▸ h.layout
  metrics := hmetrics ▸ h.metrics
  limit := by rw [hselection, hlength, h.limit]
  exact := hselection ▸ h.exact
  fits := by
    rw [hviewport]
    exact h.fits.congr hlayout hmetrics hlength

theorem consistent_new : ({} : View σ).Consistent where
  layout := rfl
  metrics := rfl
  limit := rfl
  exact := (by constructor <;> decide : Selection.Exact {})
  fits := (by constructor <;> decide : Viewport.Fits {} {}).congr rfl rfl rfl

theorem Consistent.ends (h : v.Consistent) : v.selection.EndsAt (2 * v.length) :=
  ⟨h.limit, fun _ => h.exact⟩

theorem consistent_of_ends (hlayout : v.layout.validate = .ok ())
    (hmetrics : v.metrics.validate = .ok ()) (hends : v.selection.EndsAt (2 * v.length))
    (hlength : v.length < 2 ^ 62) (hfits : v.viewport.Fits v.grid) : v.Consistent :=
  ⟨hlayout, hmetrics, hends.limit, hends.exact (by omega), hfits⟩

section
variable (hlayout : v.layout.validate = .ok ()) (hmetrics : v.metrics.validate = .ok ())
include hlayout hmetrics

theorem consistent_resetWith (source : Option σ) (hlength : (v.resetWith source).length < 2 ^ 62) :
    (v.resetWith source).Consistent := by
  have hcore := v.core_resetWith source
  exact consistent_of_ends ((congrArg (·.layout.validate) hcore).trans hlayout)
    ((congrArg (·.metrics.validate) hcore).trans hmetrics) (v.ends_resetWith source) hlength
    (v.fits_resetWith source)

theorem consistent_dataChanged (hlength : v.length < 2 ^ 62) : v.dataChanged.Consistent := by
  have hcore := v.core_dataChanged
  exact consistent_of_ends ((congrArg (·.layout.validate) hcore).trans hlayout)
    ((congrArg (·.metrics.validate) hcore).trans hmetrics) v.ends_dataChanged
    (v.length_dataChanged.symm ▸ hlength) v.fits_dataChanged

theorem consistent_tick (hs : v.source = some s) (hchanged : (ByteSource.takeChange s).1 = true)
    (hlength : (v.tick now).length < 2 ^ 62) : (v.tick now).Consistent := by
  obtain ⟨source, poller, events, htick⟩ := tick_of_changed hs hchanged now
  rw [htick] at hlength ⊢
  have hdata := consistent_dataChanged (v := { v with source }) hlayout hmetrics
    (length_dataChanged { v with source } ▸ hlength)
  exact hdata.congr rfl rfl rfl rfl rfl

end

end View

-- ---------------------------------------------------------------------------
-- Runs
-- ---------------------------------------------------------------------------

/-- A call that leaves the source its length, or installs one that is not too long. -/
def Call.Steady [ByteSource σ] (v : View σ) : Call σ → Prop
  | .install source => ByteSource.length source < 2 ^ 62
  | .uninstall => True
  | c => (c.apply v).length = v.length

namespace View

/-- Where steady runs begin: a new view, or any view in which a source was just installed. -/
inductive Opened [ByteSource σ] : View σ → Prop
  | new : Opened {}
  | install {v : View σ} (h : v.Reachable fun _ _ => True)
    (hs : ByteSource.length s < 2 ^ 62) : Opened (v.install s)

/-- Steady calls one after the other, with sources that may change on their own as `Outside`
allows. -/
inductive Run [ByteSource σ] (Outside : σ → σ → Prop) (start : View σ) : View σ → Prop
  | refl : Run Outside start start
  | call {v : View σ} (h : Run Outside start v) (c : Call σ) (hc : c.Steady v) :
      Run Outside start (c.apply v)
  | outside {v : View σ} (h : Run Outside start v) (hs : v.source = some s) (ho : Outside s s') :
      Run Outside start { v with source := some s' }

section
variable [ByteSource σ] {v w : View σ} {c : Call σ}

theorem length_lt_of_steady (hlength : v.length < 2 ^ 62) (hc : c.Steady v) :
    (c.apply v).length < 2 ^ 62 := by
  cases c with
  | install source =>
    change (v.resetWith (some source)).length < _
    rw [length_resetWith]
    exact hc
  | uninstall =>
    change (v.resetWith none).length < _
    rw [length_resetWith]
    exact (by decide : 0 < 2 ^ 62)
  | _ => exact Nat.lt_of_le_of_lt (Nat.le_of_eq hc) hlength

theorem reset_or_length_of_steady (hc : c.Steady v) :
    (∃ source, c.apply v = v.resetWith source) ∨ (c.apply v).length = v.length := by
  cases c with
  | install source => exact .inl ⟨some source, rfl⟩
  | uninstall => exact .inl ⟨none, rfl⟩
  | _ => exact .inr hc

theorem Consistent.call (h : v.Consistent) (hlength : v.length < 2 ^ 62) (hc : c.Steady v) :
    (c.apply v).Consistent := by
  have hlength' := length_lt_of_steady hlength hc
  obtain ⟨source, hreset⟩ | hsame := reset_or_length_of_steady hc
  · rw [hreset] at hlength' ⊢
    exact consistent_resetWith h.layout h.metrics source hlength'
  · obtain ⟨hlayout, hmetrics⟩ :=
      (c.step v).valid ⟨Layout.validate_ok.mp h.layout, Metrics.validate_ok.mp h.metrics⟩
    exact consistent_of_ends (Layout.validate_ok.mpr hlayout) (Metrics.validate_ok.mpr hmetrics)
      (Call.ends h.ends hsame) hlength' (Call.fits h.fits hsame)

theorem consistent_of_opened {v : View σ} (h : v.Opened) : v.Consistent ∧ v.length < 2 ^ 62 := by
  cases h with
  | new => exact ⟨consistent_new, (by decide : 0 < 2 ^ 62)⟩
  | @install s u hu hs =>
    have hvalid := hu.valid
    have hlength : (u.resetWith (some s)).length < 2 ^ 62 := by
      rw [length_resetWith]
      exact hs
    exact ⟨consistent_resetWith (Layout.validate_ok.mpr hvalid.layout)
      (Metrics.validate_ok.mpr hvalid.metrics) _ hlength, hlength⟩

theorem Run.steady {start : View σ}
    (h : Run (fun s s' => ByteSource.length s' = ByteSource.length s) start v)
    (hstart : start.Consistent ∧ start.length < 2 ^ 62) : v.Consistent ∧ v.length < 2 ^ 62 := by
  induction h with
  | refl => exact hstart
  | call h c hc ih => exact ⟨ih.1.call ih.2 hc, length_lt_of_steady ih.2 hc⟩
  | @outside s s' v h hs ho ih =>
    have hsame := length_replaced hs ho
    exact ⟨ih.1.congr rfl rfl rfl rfl hsame, hsame ▸ ih.2⟩

end

-- ---------------------------------------------------------------------------
-- Memories that are replaced
-- ---------------------------------------------------------------------------

section
variable [ByteSource τ]

/-- Changes that a tick takes note of: a memory gets other content. Any other source keeps its
length. -/
inductive Replaced : Memory ⊕ τ → Memory ⊕ τ → Prop
  | memory (hsize : bytes.size < 2 ^ 62) : Replaced (.inl m) (.inl (m.replace bytes))
  | other (hlength : ByteSource.length t' = ByteSource.length t) : Replaced (.inr t) (.inr t')

/-- Consistent, or the next tick will find that the memory has changed. -/
structure Restorable (v : View (Memory ⊕ τ)) : Prop where
  layout : v.layout.validate = .ok ()
  metrics : v.metrics.validate = .ok ()
  length_lt : v.length < 2 ^ 62
  noted : v.Consistent ∨ ∃ m, v.source = some (.inl m) ∧ m.changed = true

variable {v w : View (Memory ⊕ τ)} {c : Call (Memory ⊕ τ)}

theorem restorable_of_consistent (h : v.Consistent ∧ v.length < 2 ^ 62) : v.Restorable :=
  ⟨h.1.layout, h.1.metrics, h.2, .inl h.1⟩

theorem Restorable.tick (h : v.Restorable) (hc : (Call.tick now).Steady v) :
    (v.tick now).Consistent := by
  obtain hv | ⟨m, hs, hm⟩ := h.noted
  · exact hv.call h.length_lt hc
  · exact consistent_tick h.layout h.metrics hs hm (length_lt_of_steady h.length_lt hc)

theorem Restorable.dataChanged (h : v.Restorable) : v.dataChanged.Consistent :=
  consistent_dataChanged h.layout h.metrics h.length_lt

theorem Effect.pending (h : v.Effect w new) (hv : v.Restorable) (hs : v.source = some (.inl m))
    (hm : m.changed = true) (hlength : w.length < 2 ^ 62) :
    w.Consistent ∨ ∃ m, w.source = some (.inl m) ∧ m.changed = true := by
  -- Asking leaves a memory as it is, so only a write or another source is of interest.
  have hrequest (s : Memory ⊕ τ) (r : ByteRange) (h : s = .inl m) :
      (Probe.request s r).2 = .inl m := by
    subst h
    rfl
  cases h with
  | ignored hw =>
    rw [hw]
    exact .inr ⟨m, hs, hm⟩
  | layered hw =>
    rw [hw]
    exact .inr ⟨m, hs, hm⟩
  | paced hw =>
    rw [hw]
    exact .inr ⟨m, hs, hm⟩
  | shown hsource => exact .inr ⟨m, hsource.trans hs, hm⟩
  | selected before hplain hsource hpoller =>
    right
    rw [hs] at hsource
    generalize w.source = source at hsource ⊢
    cases hsource with
    | keep => exact ⟨m, rfl, hm⟩
    | write hwrite =>
      obtain ⟨m', hm', rfl⟩ := exists_of_map_ok hwrite
      obtain ⟨-, -, rfl⟩ := Memory.write_ok.mp hm'
      exact ⟨_, rfl, hm⟩
  | reset source hw =>
    rw [hw] at hlength ⊢
    exact .inl (consistent_resetWith hv.layout hv.metrics source hlength)
  | rendered _ now hw =>
    have hsource : w.source = some (v.poller.fetch (.inl m) v.visibleRange now).2.2 := by
      rw [hw, v.render_view hs]
    rw [Poller.fetch_source hrequest v.poller v.visibleRange now rfl] at hsource
    exact .inr ⟨m, hsource, hm⟩
  | ticked _ now hw =>
    left
    rw [hw] at hlength ⊢
    exact consistent_tick hv.layout hv.metrics hs hm hlength
  | polled _ now hw =>
    have hsource : w.source = some (v.poller.pollNow (.inl m) now).2.2 := by
      rw [hw, v.pollNow_eq hs]
    rw [Poller.pollNow_probe hrequest v.poller now rfl] at hsource
    exact .inr ⟨m, hsource, hm⟩

theorem Restorable.call (h : v.Restorable) (hc : c.Steady v) : (c.apply v).Restorable := by
  obtain ⟨hlayout, hmetrics⟩ :=
    (c.step v).valid ⟨Layout.validate_ok.mp h.layout, Metrics.validate_ok.mp h.metrics⟩
  have hlength := length_lt_of_steady h.length_lt hc
  refine ⟨Layout.validate_ok.mpr hlayout, Metrics.validate_ok.mpr hmetrics, hlength, ?_⟩
  obtain hv | ⟨m, hs, hm⟩ := h.noted
  · exact .inl (hv.call h.length_lt hc)
  · obtain ⟨new, -, heffect⟩ := c.effect v
    exact heffect.pending h hs hm hlength

theorem Restorable.outside (h : v.Restorable) (hs : v.source = some s) (ho : Replaced s s') :
    { v with source := some s' }.Restorable := by
  cases ho with
  | memory hsize => exact ⟨h.layout, h.metrics, hsize, .inr ⟨_, rfl, rfl⟩⟩
  | @other t' t hlength =>
    have hsame : { v with source := some (Sum.inr t') }.length = v.length :=
      length_replaced hs hlength
    refine ⟨h.layout, h.metrics, hsame ▸ h.length_lt, ?_⟩
    obtain hv | ⟨m, hm, -⟩ := h.noted
    · exact .inl (hv.congr rfl rfl rfl rfl hsame)
    · cases hs.symm.trans hm

theorem Run.restorable (h : Run Replaced v w) (hv : v.Restorable) : w.Restorable := by
  induction h with
  | refl => exact hv
  | call h c hc ih => exact ih.call hc
  | outside h hs ho ih => exact ih.outside hs ho

/-- A view is consistent after every call, whatever its sources answer, as long as they keep their
length. Where memories are replaced, it is so again after the next tick, or once it is told. -/
theorem Run.consistent {start v : View (Memory ⊕ τ)} (hstart : start.Opened)
    (hv : Run (fun s s' => ByteSource.length s' = ByteSource.length s) start v) :
    v.Consistent ∧ ∀ w, Run Replaced v w →
      w.dataChanged.Consistent ∧ ∀ now, (Call.tick now).Steady w → (w.tick now).Consistent := by
  have hsteady := hv.steady (consistent_of_opened hstart)
  refine ⟨hsteady.1, fun w hw => ?_⟩
  have hrestorable := hw.restorable (restorable_of_consistent hsteady)
  exact ⟨hrestorable.dataChanged, fun now => hrestorable.tick⟩

/-- A memory in a view with settings, replaced by a shorter one while the caret is at its end. -/
theorem consistent_shortened :
    let narrow : Settings := { layout := { bytesPerRow := 2, bytesPerColumn := 1 } }
    let empty : View (Memory ⊕ Scripted) :=
      { layout := narrow.layout, layers := Layers.ofCount narrow.layerCount }
    let source : Memory := { bytes := #[1, 2, 3, 4] }
    let start := empty.install (.inl source)
    let v := (Call.setCaret 8).apply start
    let w : View (Memory ⊕ Scripted) := { v with source := some (.inl (source.replace #[5])) }
    View.ofSettings narrow = .ok empty ∧ v.caret = 8 ∧ ¬ w.Consistent ∧ (w.tick 0).caret = 2 ∧
      (w.tick 0).Consistent := by
  intro narrow empty source start v w
  have hempty : View.ofSettings narrow = .ok empty := rfl
  have hstart : start.Opened := .install (.ofSettings hempty) (by decide)
  have hv : Run (fun s s' => ByteSource.length s' = ByteSource.length s) start v :=
    .call .refl (.setCaret 8) (show v.length = start.length by decide)
  have hw : Run Replaced v w := .outside .refl rfl (.memory (show 1 < 2 ^ 62 by decide))
  refine ⟨hempty, by decide, ?_, by decide, ((Run.consistent hstart hv).2 w hw).2 0 ?_⟩
  · intro h
    exact absurd h.limit (by decide)
  · change (w.tick 0).length = w.length
    decide

end

end View

end HexEditor
