import HexEditor.Proofs.Poller
import HexEditor.Proofs.View.Effect
import HexEditor.Source
import Mathlib.Data.List.Chain

/-!
# Events mirror the view

A host that follows the events knows the selection and the status without asking for them.
`History.told` says so of all events that were ever queued, those already taken and those still
waiting, whatever the sources answer: the last one of each kind is up to date after every call, and
no event tells a status that was known before.
-/

namespace HexEditor

section
variable {R : α → α → Prop}

theorem getLastD_append (l m : List α) (a : α) :
    (l ++ m).getLastD a = m.getLastD (l.getLastD a) := by
  induction l generalizing a with
  | nil => rfl
  | cons b l ih => rw [List.cons_append, List.getLastD_cons, ih, List.getLastD_cons]

theorem isChain_cons_append {l m : List α} :
    (a :: (l ++ m)).IsChain R ↔ (a :: l).IsChain R ∧ (l.getLastD a :: m).IsChain R := by
  induction l generalizing a with
  | nil => simp
  | cons b l ih =>
    rw [List.cons_append, List.isChain_cons_cons, ih, List.isChain_cons_cons, List.getLastD_cons,
      and_assoc]

end

namespace View

/-- Runs of a view, with the events that were taken from it. Between two calls the source may change
in any way. -/
inductive History [ByteSource σ] : List Event → View σ → Prop
  | new : History [] ({} : View σ)
  | ofSettings {given : Settings} {v : View σ} (h : View.ofSettings given = .ok v) : History [] v
  | call {v : View σ} (h : History taken v) (c : Call σ) : History (taken ++ c.takes v) (c.apply v)
  | outside {v : View σ} (h : History taken v) (hs : v.source = some s) (s' : σ) :
      History taken { v with source := some s' }

-- ---------------------------------------------------------------------------
-- What events tell
-- ---------------------------------------------------------------------------

/-- Events that lead a host from what it knows of `v` to what it knows of `w`. -/
structure Tells (v w : View σ) (new : List Event) : Prop where
  selection : (new.filterMap Event.selection?).getLastD (v.selection.start, v.selection.length) =
    (w.selection.start, w.selection.length)
  status : (new.filterMap Event.status?).getLastD v.poller.status = w.poller.status
  fresh : (v.poller.status :: new.filterMap Event.status?).IsChain (· ≠ ·)

variable {u v w : View σ}

theorem Tells.trans (h : u.Tells v first) (h' : v.Tells w second) :
    u.Tells w (first ++ second) := by
  refine ⟨?_, ?_, ?_⟩
  · rw [List.filterMap_append, getLastD_append, h.selection, h'.selection]
  · rw [List.filterMap_append, getLastD_append, h.status, h'.status]
  · rw [List.filterMap_append, isChain_cons_append, h.status]
    exact ⟨h.fresh, h'.fresh⟩

theorem tells_plain (hselection : w.selection = v.selection)
    (hstatus : w.poller.status = v.poller.status) (hplain : ∀ e ∈ new, e.Plain) :
    v.Tells w new := by
  have hs : new.filterMap Event.selection? = [] :=
    List.filterMap_eq_nil_iff.mpr fun e he => (hplain e he).1
  have ht : new.filterMap Event.status? = [] :=
    List.filterMap_eq_nil_iff.mpr fun e he => (hplain e he).2
  refine ⟨?_, ?_, ?_⟩
  · rw [hs, hselection]
    rfl
  · rw [ht, hstatus]
    rfl
  · rw [ht]
    exact .singleton _

theorem tells_selection (hstatus : w.poller.status = v.poller.status) :
    v.Tells w [.selectionChanged w.selection.start w.selection.length, .repaintRequested] :=
  ⟨rfl, hstatus.symm, .singleton _⟩

theorem tells_status (hselection : w.selection = v.selection)
    (hstatus : v.poller.status ≠ w.poller.status) (hplain : ∀ e ∈ rest, e.Plain) :
    v.Tells w (.statusChanged w.poller.status :: rest) := by
  have hfirst : v.Tells { v with poller := w.poller } [.statusChanged w.poller.status] :=
    ⟨rfl, rfl, .cons_cons hstatus (.singleton _)⟩
  exact hfirst.trans (tells_plain hselection rfl hplain)

-- ---------------------------------------------------------------------------
-- What calls tell
-- ---------------------------------------------------------------------------

theorem Noted.tells (h : Noted v.selection w.selection changed noted)
    (hstatus : w.poller.status = v.poller.status) :
    v.Tells w noted := by
  cases h with
  | nothing hselection => exact tells_plain hselection hstatus nofun
  | kept hselection => exact tells_plain hselection hstatus (by decide)
  | moved =>
    have hplain : v.Tells v [.dataChanged] := tells_plain rfl rfl (by decide)
    exact hplain.trans (tells_selection hstatus)

theorem tells_asked [Probe π] {probe : π} (h : v.poller.Asked probe x) (hv : v.poller.Coherent)
    (hpoller : w.poller = x.2.1) (hselection : w.selection = v.selection) :
    v.Tells w (if x.1 then [.statusChanged w.poller.status, .repaintRequested] else []) := by
  have hstatus := h.status hv
  rw [← hpoller] at hstatus
  split at hstatus
  · rw [if_pos ‹_›]
    refine tells_status hselection ?_ (by decide)
    rw [hstatus.1, hstatus.2]
    decide
  · rw [if_neg ‹_›]
    exact tells_plain hselection hstatus nofun

variable [ByteSource σ]

theorem Effect.tells (h : v.Effect w new) (hv : v.poller.Coherent) : v.Tells w new := by
  cases h with
  | ignored hw =>
    rw [hw]
    exact tells_plain rfl rfl nofun
  | layered hw =>
    rw [hw]
    exact tells_plain rfl rfl nofun
  | paced hw =>
    rw [hw]
    exact tells_plain rfl rfl nofun
  | shown hsource hpoller hselection hnew hplain =>
    exact tells_plain hselection (by rw [hpoller]) hplain
  | selected before hplain hsource hpoller =>
    exact (tells_plain rfl rfl hplain).trans (tells_selection (by rw [hpoller]))
  | reset source hw =>
    have hstatus : w.poller.status = .defined := by
      rw [hw, resetWith]
      simp only
      split <;> rfl
    refine (tells_plain rfl rfl (by decide) : v.Tells v [.dataChanged]).trans ?_
    refine .trans (v := { v with poller := w.poller }) ?_ (tells_selection rfl)
    split
    · rename_i hdefined
      exact tells_plain rfl (hstatus.trans hdefined.symm) nofun
    · rename_i hundefined
      rw [← hstatus]
      exact tells_status rfl (hstatus ▸ hundefined) nofun
  | rendered hs now hw =>
    have hselection : w.selection = v.selection := by rw [hw, v.render_view hs]
    split
    · rename_i hsame
      exact tells_plain hselection hsame nofun
    · rename_i hchanged
      exact tells_status hselection (Ne.symm hchanged) nofun
  | @ticked s noted hs now hw hnoted =>
    have hpoller : w.poller = (v.poller.tick (ByteSource.takeChange s).2 now).2.1 := by
      rw [hw, v.tick_eq hs]
      simp only
      split <;> rfl
    -- The selection is told before the status, though both have changed by then.
    refine .trans (v := { w with poller := v.poller }) ?_ ?_
    · exact Noted.tells hnoted rfl
    · exact tells_asked (v.poller.asked_tick _ now) hv hpoller rfl
  | @polled s hs now hw =>
    have hpoller : w.poller = (v.poller.pollNow s now).2.1 := by rw [hw, v.pollNow_eq hs]
    have hselection : w.selection = v.selection := by rw [hw, v.pollNow_eq hs]
    exact tells_asked (v.poller.asked_pollNow s now) hv hpoller hselection

-- ---------------------------------------------------------------------------
-- Runs
-- ---------------------------------------------------------------------------

theorem History.reachable (h : History taken v) : v.Reachable fun _ _ => True := by
  induction h with
  | new => exact .new
  | ofSettings h => exact .ofSettings h
  | call h c ih => exact .call ih c
  | outside h hs s' ih => exact .outside ih hs trivial

theorem History.tells (h : History taken v) : View.Tells {} v (taken ++ v.events) := by
  induction h with
  | new => exact tells_plain rfl rfl nofun
  | ofSettings h =>
    rw [ofSettings_ok h]
    exact tells_plain rfl rfl nofun
  | @call taken v h c ih =>
    obtain ⟨new, he, heffect⟩ := c.effect v
    rw [List.append_assoc, he, ← List.append_assoc]
    exact ih.trans (heffect.tells h.reachable.watched.coherent)
  | outside h hs s' ih => exact ⟨ih.selection, ih.status, ih.fresh⟩

theorem render_status (hv : v.core.Watched) (now : Nat) :
    (v.render now).1.status = (v.render now).2.poller.status := by
  rw [render, fetch]
  cases hs : v.source with
  | none => exact (hv.defined hs).symm
  | some s =>
    have hstatus := Poller.fetch_status v.poller s v.visibleRange now
    simp only
    split
    · exact hstatus.symm
    · exact hstatus.symm

/-- After any run the events that were ever queued tell the selection and the status, each status is
told only when it changes, and frames agree with it. -/
theorem History.told {v : View σ} (h : History taken v) :
    ((taken ++ v.events).filterMap Event.selection?).getLastD (0, 0) =
    (v.selection.start, v.selection.length) ∧
      ((taken ++ v.events).filterMap Event.status?).getLastD .defined = v.poller.status ∧
      (.defined :: (taken ++ v.events).filterMap Event.status?).IsChain (· ≠ ·) ∧
      ∀ now, (v.render now).1.status = (v.render now).2.poller.status :=
  ⟨h.tells.selection, h.tells.status, h.tells.fresh, render_status h.reachable.watched⟩

/-- A source that lacks its bytes at first: the host has taken the events up to that frame, the
others are waiting. -/
theorem told_late :
    let source : Scripted :=
      { length := 4, script := { answers := [false, true] }, editable := true }
    let missing : View Scripted := (Call.render 0).apply ((Call.install source).apply {})
    let typed := (Call.typeChar 'A').apply ((Call.tick 2000).apply (Call.takeEvents.apply missing))
    missing.poller.status = .undefined ∧ History missing.events typed ∧
      ((missing.events ++ typed.events).filterMap Event.status?).getLastD .defined = .defined ∧
      ((missing.events ++ typed.events).filterMap Event.selection?).getLastD (0, 0) = (1, 0) := by
  intro source missing typed
  have hmissing := (History.new.call (.install source)).call (.render 0)
  have htyped := ((hmissing.call .takeEvents).call (.tick 2000)).call (.typeChar 'A')
  simp only [Call.takes, List.nil_append, List.append_nil] at htyped
  have hstatus : typed.poller.status = .defined := by decide
  have hselection : (typed.selection.start, typed.selection.length) = (1, 0) := by decide
  exact ⟨by decide, htyped, htyped.told.2.1.trans hstatus, htyped.told.1.trans hselection⟩

end View

end HexEditor
