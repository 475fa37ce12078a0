import HexEditor.Proofs.Source.Repeats
import HexEditor.Proofs.View.Effect
import HexEditor.Proofs.View.Resident

/-!
# Nothing changes on screen without an event

A host that draws a frame only after it was told to never shows an old one: `render_of_quiet` says
that a call that queues no event leaves the frame as it was, also one that asked the source. That
needs a source whose answers do not change while it is only asked, as those of a memory, a mapped
file or a paged memory.
-/

namespace HexEditor

def Call.Quiet [ByteSource σ] (v : View σ) (c : Call σ) : Prop :=
  c.takes v ++ (c.apply v).events = v.events

instance [ByteSource σ] (v : View σ) (c : Call σ) : Decidable (c.Quiet v) :=
  inferInstanceAs (Decidable (_ = _))

-- ---------------------------------------------------------------------------
-- An empty layer
-- ---------------------------------------------------------------------------

theorem Layers.find?_push (ls : Layers) (offset : Nat) :
    ls.push.find? offset = ls.find? offset := by
  simp [find?, push, Layer.find?]

theorem Scene.compose_push (s : Scene) :
    { s with layers := s.layers.push }.compose = s.compose := by
  have hstyle (data : Bytes) (position offset : Nat) (fallback : Color) :
      { s with layers := s.layers.push }.style data position offset fallback =
        s.style data position offset fallback := by
    simp only [style, Layers.find?_push]
  have hcell (position offset : Nat) (fallback : Color) :
      { s with layers := s.layers.push }.cellStyle position offset fallback =
        s.cellStyle position offset fallback := by
    simp only [cellStyle, hstyle]
    rfl
  have hcells : { s with layers := s.layers.push }.cells = s.cells := by
    simp only [cells, hexCell, textCell, hcell]
    rfl
  simp only [compose, hcells]
  rfl

-- ---------------------------------------------------------------------------
-- Fetching twice
-- ---------------------------------------------------------------------------

namespace ByteSource

variable [ByteSource σ] [ByteSource τ]

theorem Repeats.inl {s : σ} (h : Repeats s) : Repeats (.inl s : σ ⊕ τ) :=
  ⟨h.length, fun r hr => congrArg (fun x => (x.1, Sum.inl x.2)) (h.request r hr),
    fun hchanged => congrArg Sum.inl (h.takeChange hchanged)⟩

theorem Repeats.inr {t : τ} (h : Repeats t) : Repeats (.inr t : σ ⊕ τ) :=
  ⟨h.length, fun r hr => congrArg (fun x => (x.1, Sum.inr x.2)) (h.request r hr),
    fun hchanged => congrArg Sum.inr (h.takeChange hchanged)⟩

end ByteSource

namespace Poller

variable [ByteSource σ] {p q : Poller} {s : σ}

theorem fetch_data (hstatus : q.status = p.status) (s : σ) (region : ByteRange) (now now' : Nat) :
    (q.fetch s region now').1 = (p.fetch s region now).1 := by
  rw [fetch_eq, fetch_eq, hstatus]
  repeat' split
  all_goals rfl

theorem fetch_again (hs : ByteSource.Repeats s) (region : ByteRange) (now now' : Nat)
    (hstatus : (p.fetch s region now).2.1.status = p.status) :
    ((p.fetch s region now).2.1.fetch (p.fetch s region now).2.2 region now').1 =
    (p.fetch s region now).1 := by
  by_cases hundefined : p.status = .undefined
  · rw [fetch_of_undefined (hstatus.trans hundefined), fetch_of_undefined hundefined]
  by_cases hregion : region.IsEmpty
  · have hfetch (now : Nat) : p.fetch s region now = (some #[], p, s) := by
      rw [fetch_eq, if_neg hundefined, if_pos hregion]
    simp only [hfetch]
  have hfetch (s : σ) (now : Nat) := p.fetch_eq s region now
  simp only [if_neg hundefined, if_neg hregion] at hfetch
  have hmiss : (p.miss region now).status ≠ p.status := Ne.symm hundefined
  cases hasked : (Probe.request s region).1 with
  | false =>
    rw [hfetch, hasked] at hstatus
    exact absurd hstatus hmiss
  | true =>
    cases hread : ByteSource.read (Probe.request s region).2 region with
    | error =>
      rw [hfetch, if_pos hasked, hread] at hstatus
      exact absurd hstatus hmiss
    | ok data =>
      -- The source answers as before, and is the same after it.
      have hfirst : p.fetch s region now = (some data, p, (Probe.request s region).2) := by
        rw [hfetch, if_pos hasked, hread]
      rw [hfirst]
      simp only
      rw [hfetch, hs.request region hasked, if_pos hasked, hread]

theorem length_fetch (hs : ByteSource.Repeats s) (p : Poller) (region : ByteRange) (now : Nat) :
    ByteSource.length (p.fetch s region now).2.2 = ByteSource.length s := by
  rw [fetch_eq]
  repeat' split
  · rfl
  · rfl
  · exact hs.length region
  · exact hs.length region
  · exact hs.length region

theorem Asked.length (h : p.Asked s x) (hs : ByteSource.Repeats s) :
    ByteSource.length x.2.2 = ByteSource.length s := by
  cases h with
  | idle => rfl
  | found | missing | gaveUp => exact hs.length _

theorem Asked.fetch (h : p.Asked s x) (hp : p.Coherent) (hx : x.1 = false) (region : ByteRange)
    (now now' : Nat) :
    (x.2.1.fetch x.2.2 region now').1 = (p.fetch s region now).1 := by
  cases h with
  | idle => exact fetch_data rfl s region now now'
  | found => cases hx
  | missing hpoll | gaveUp hpoll =>
    have hundefined := hp.undefined hpoll
    rw [fetch_of_undefined hundefined, fetch_of_undefined]
    exact hundefined

end Poller

-- ---------------------------------------------------------------------------
-- Frames
-- ---------------------------------------------------------------------------

namespace View

variable [ByteSource σ] {v w : View σ}

theorem render_congr (hscene : ∀ data, (w.scene data).compose = (v.scene data).compose)
    (hdata : (w.fetch now').1 = (v.fetch now).1) : (w.render now').1 = (v.render now).1 := by
  change (w.scene (w.fetch now').1).compose = (v.scene (v.fetch now).1).compose
  rw [hdata, hscene]

theorem fetch_congr (hsource : w.source = v.source) (hstatus : w.poller.status = v.poller.status)
    (hrange : w.visibleRange = v.visibleRange) (now now' : Nat) :
    (w.fetch now').1 = (v.fetch now).1 := by
  rw [fetch, fetch, hsource]
  cases v.source with
  | none => rfl
  | some s =>
    simp only [hrange]
    exact Poller.fetch_data hstatus s _ now now'

/-- A frame does not tell a source from one that has the same length and the same bytes on
screen. -/
theorem render_asked {s s' : σ} (hs : v.source = some s)
    (hlength : ByteSource.length s' = ByteSource.length s) {p : Poller} {e : List Event}
    (hdata : (p.fetch s' v.visibleRange now').1 = (v.poller.fetch s v.visibleRange now).1) :
    ({ v with source := some s', poller := p, events := e }.render now').1 = (v.render now).1 := by
  have hgrid : { v with source := some s', poller := p, events := e }.grid = v.grid := by
    simp only [grid, View.length, hs, Option.elim_some, hlength]
  refine render_congr (fun data => ?_) ?_
  · simp only [scene, hgrid, hs, Option.isSome_some]
  · simp only [fetch, hs, visibleRange, hgrid]
    exact hdata

section
variable {s : σ} (hs : v.source = some s) (hrepeats : ByteSource.Repeats s) (now now' : Nat)
include hs hrepeats

theorem render_render (hstatus : (v.render asked).2.poller.status = v.poller.status) :
    ((v.render asked).2.render now').1 = (v.render now).1 := by
  rw [v.render_view hs] at hstatus ⊢
  refine render_asked hs (Poller.length_fetch hrepeats _ _ _) ?_
  rw [Poller.fetch_again hrepeats _ asked now' hstatus]
  exact Poller.fetch_data rfl s _ now asked

theorem render_pollNow (hv : v.poller.Coherent) (hpolled : (v.poller.pollNow s asked).1 = false) :
    ((v.pollNow asked).render now').1 = (v.render now).1 := by
  have hasked := v.poller.asked_pollNow s asked
  rw [v.pollNow_eq hs]
  exact render_asked hs (hasked.length hrepeats) (hasked.fetch hv hpolled _ now now')

theorem render_tick (hv : v.poller.Coherent) (hchange : (ByteSource.takeChange s).1 = false)
    (hpolled : (v.poller.tick (ByteSource.takeChange s).2 asked).1 = false) :
    ((v.tick asked).render now').1 = (v.render now).1 := by
  have hsame := hrepeats.takeChange hchange
  rw [hsame] at hpolled
  have htick := v.tick_eq hs asked
  simp only [hchange, hpolled, hsame, Bool.false_eq_true, if_false] at htick
  have hasked := v.poller.asked_tick s asked
  rw [htick]
  exact render_asked hs (hasked.length hrepeats) (hasked.fetch hv hpolled _ now now')

end

/-- What is not told does not show. -/
theorem Effect.render_eq (h : v.Effect w new) (hnew : new = []) (hv : v.poller.Coherent)
    (hsource : ∀ s, v.source = some s → ByteSource.Repeats s) (now now' : Nat) :
    (w.render now').1 = (v.render now).1 := by
  cases h with
  | ignored hw =>
    rw [hw]
    refine render_congr (fun _ => rfl) ?_
    refine fetch_congr ?_ ?_ ?_ now now' <;> rfl
  | layered hw =>
    rw [hw]
    refine render_congr (fun data => (v.scene data).compose_push) ?_
    refine fetch_congr ?_ ?_ ?_ now now' <;> rfl
  | paced hw =>
    rw [hw]
    refine render_congr (fun _ => rfl) ?_
    refine fetch_congr ?_ ?_ ?_ now now' <;> rfl
  | shown _ _ _ hne => exact absurd hnew hne
  | selected => simp at hnew
  | reset => cases hnew
  | @rendered s hs asked hw =>
    rw [hw] at hnew ⊢
    split at hnew
    · exact render_render hs (hsource s hs) now now' ‹_›
    · cases hnew
  | @ticked s noted hs asked hw hnoted =>
    obtain ⟨rfl, hpolled⟩ := List.append_eq_nil_iff.mp hnew
    -- No event was noted, so the source had no change to report.
    have hchange : (ByteSource.takeChange s).1 = false := by
      generalize (ByteSource.takeChange s).1 = changed at hnoted
      cases hnoted
      rfl
    rw [hw]
    split at hpolled
    · cases hpolled
    · exact render_tick hs (hsource s hs) now now' hv hchange (Bool.eq_false_iff.mpr ‹_›)
  | @polled s hs asked hw =>
    rw [hw]
    split at hnew
    · cases hnew
    · exact render_pollNow hs (hsource s hs) now now' hv (Bool.eq_false_iff.mpr ‹_›)

theorem repeats_of_known [ByteSource τ] {s : AnySource (Paged Memory ⊕ τ)}
    (hs : ∀ t, s ≠ .inr (.inr (.inr t))) :
    ByteSource.Repeats s := by
  rcases s with m | m | p | t
  · exact m.repeats.inl
  · exact m.repeats.inl.inr
  · exact (Paged.repeats p.inner.repeats).inl.inr.inr
  · exact absurd rfl (hs t)

/-- A call that queues no event leaves the frame of a memory, a mapped file or a paged memory as it
was. -/
theorem render_of_quiet [ByteSource τ] {v : View (AnySource (Paged Memory ⊕ τ))}
    {Outside : AnySource (Paged Memory ⊕ τ) → AnySource (Paged Memory ⊕ τ) → Prop}
    (hv : v.Reachable Outside) (hs : ∀ t, v.source ≠ some (.inr (.inr (.inr t))))
    {c : Call (AnySource (Paged Memory ⊕ τ))} (hc : c.Quiet v) (now now' : Nat) :
    ((c.apply v).render now').1 = (v.render now).1 := by
  obtain ⟨new, he, heffect⟩ := c.effect v
  have hnew : new = [] := List.append_right_eq_self.mp (he.symm.trans hc)
  refine heffect.render_eq hnew hv.watched.coherent ?_ now now'
  intro s hsource
  exact repeats_of_known fun t ht => hs t (hsource.trans (congrArg some ht))

/-- A poll brings a page closer, but not all the way. -/
theorem render_pollNow_early :
    let source : AnySource (Paged Memory ⊕ Scripted) :=
      .inr (.inr (.inl { inner := { bytes := #[0x41, 0x42] }, latency := some 2 }))
    let v : View (AnySource (Paged Memory ⊕ Scripted)) :=
      (Call.render 0).apply ((Call.install source).apply {})
    let polled := (Call.pollNow 5).apply v
    v.poller.status = .undefined ∧ polled.source ≠ v.source ∧
      (polled.render 6).1 = (v.render 5).1 := by
  intro source v polled
  have hv : v.Reachable fun _ _ => False := (Reachable.new.call _).call _
  have hsource : v.source = some (.inr (.inr (.inl
      { inner := { bytes := #[0x41, 0x42] }, latency := some 2,
        pending := [(0, 2)] }))) := by decide
  refine ⟨by decide, by decide, render_of_quiet hv ?_ (c := .pollNow 5) (by decide) 5 6⟩
  intro t ht
  cases hsource.symm.trans ht

end View

end HexEditor
