import HexEditor.Poller

/-!
# What the poller does to its source

A poller only asks: whatever asking keeps of a source, checks, polls and fetches keep as well. A
poller that is not waiting stays so until bytes are missing.
-/

namespace HexEditor.Poller

section
variable [Probe π] {P : π → Prop} (hP : ∀ probe region, P probe → P (Probe.request probe region).2)
include hP

theorem check_probe (p : Poller) (region : ByteRange) (now : Nat) (h : P probe) :
    P (p.check probe region now).2.2 := by
  have hasked := hP probe region h
  unfold check
  split
  · exact h
  split
  · exact h
  simp only
  split
  · exact hasked
  · exact hasked

theorem pollNow_probe (p : Poller) (now : Nat) (h : P probe) : P (p.pollNow probe now).2.2 := by
  unfold pollNow
  split
  · exact h
  · rename_i poll _
    have hasked := hP probe poll.region h
    simp only
    repeat' split
    all_goals exact hasked

theorem tick_probe (p : Poller) (now : Nat) (h : P probe) : P (p.tick probe now).2.2 := by
  unfold tick
  repeat' split
  · exact pollNow_probe hP p now h
  · exact h
  · exact h

end

theorem fetch_source [ByteSource σ] {P : σ → Prop}
    (hP : ∀ s region, P s → P (Probe.request s region).2) (p : Poller) (region : ByteRange)
    (now : Nat) (h : P source) : P (p.fetch source region now).2.2 := by
  have hchecked := check_probe hP p region now h
  unfold fetch
  split
  · rename_i hcheck
    rwa [hcheck] at hchecked
  · rename_i hcheck
    rw [hcheck] at hchecked
    repeat' split
    all_goals exact hchecked

-- ---------------------------------------------------------------------------
-- Pollers that do not wait
-- ---------------------------------------------------------------------------

/-- The bytes on screen can be drawn, and nothing is asked for. -/
def Settled (p : Poller) : Prop :=
  p.status = .defined ∧ p.poll = none

theorem Settled.reset (p : Poller) : p.reset.Settled :=
  ⟨rfl, rfl⟩

variable {p : Poller} (hp : p.Settled)
include hp

theorem Settled.pollNow_eq [Probe π] (probe : π) (now : Nat) :
    p.pollNow probe now = (false, p, probe) := by
  rw [pollNow, hp.2]

theorem Settled.tick_eq [Probe π] (probe : π) (now : Nat) :
    p.tick probe now = (false, p, probe) := by
  rw [tick, hp.2]

theorem Settled.not_undefined : ¬ p.status = .undefined := by
  rw [hp.1]
  decide

theorem Settled.check_eq [Probe π] (probe : π)
    (hthere : region.IsEmpty ∨ (Probe.request probe region).1 = true) (now : Nat) :
    ∃ asked, (asked = probe ∨ asked = (Probe.request probe region).2) ∧
      p.check probe region now = (true, p, asked) := by
  by_cases hempty : region.IsEmpty
  · exact ⟨probe, .inl rfl, by simp [check, hp.not_undefined, hempty]⟩
  · have hasked := hthere.resolve_left hempty
    exact ⟨_, .inr rfl, by simp [check, hp.not_undefined, hempty, hasked]⟩

theorem Settled.fetch_empty [ByteSource σ] (source : σ) (hregion : region.IsEmpty) (now : Nat) :
    p.fetch source region now = (some #[], p, source) := by
  simp [fetch, check, hp.not_undefined, hregion]

theorem Settled.fetch_eq [ByteSource σ] {source : σ} (hregion : ¬ region.IsEmpty)
    (hasked : Probe.request source region = (true, source))
    (hread : ByteSource.read source region = .ok data) (now : Nat) :
    p.fetch source region now = (some data, p, source) := by
  simp [fetch, check, hp.not_undefined, hregion, hasked, hread]

omit hp

-- ---------------------------------------------------------------------------
-- Status
-- ---------------------------------------------------------------------------

/-- A poll is armed only while bytes are missing. -/
def Coherent (p : Poller) : Prop :=
  p.poll.isSome → p.status = .undefined

theorem Coherent.reset (p : Poller) : p.reset.Coherent :=
  nofun

/-- What a tick or a poll can make of a poller and its probe, and whether it changes the status. -/
inductive Asked [Probe π] (p : Poller) (probe : π) : Bool × Poller × π → Prop
  | idle : Asked p probe (false, p, probe)
  | found (h : p.poll = some q) :
      Asked p probe (true, { p with status := .defined, poll := none },
        (Probe.request probe q.region).2)
  | missing (h : p.poll = some q) (due : Nat) :
      Asked p probe (false, { p with poll := some { q with due } },
        (Probe.request probe q.region).2)
  | gaveUp (h : p.poll = some q) :
      Asked p probe (false, { p with poll := none }, (Probe.request probe q.region).2)

section
variable [Probe π] (p : Poller) (probe : π) (now : Nat)

theorem asked_pollNow : p.Asked probe (p.pollNow probe now) := by
  unfold pollNow
  cases hpoll : p.poll with
  | none => exact .idle
  | some poll =>
    simp only
    split
    · exact .found hpoll
    split
    · exact .missing hpoll _
    · exact .gaveUp hpoll

theorem asked_tick : p.Asked probe (p.tick probe now) := by
  unfold tick
  repeat' split
  · exact asked_pollNow p probe now
  · exact .idle
  · exact .idle

end

section
variable [Probe π] {probe : π}

theorem Coherent.undefined (hp : p.Coherent) (hpoll : p.poll = some q) : p.status = .undefined :=
  hp (by rw [hpoll]; rfl)

theorem Asked.coherent (h : p.Asked probe x) (hp : p.Coherent) : x.2.1.Coherent := by
  cases h with
  | idle => exact hp
  | found => exact nofun
  | missing hpoll => exact fun _ => hp.undefined hpoll
  | gaveUp => exact nofun

theorem Asked.status (h : p.Asked probe x) (hp : p.Coherent) :
    if x.1 then p.status = .undefined ∧ x.2.1.status = .defined else x.2.1.status = p.status := by
  cases h with
  | idle | missing | gaveUp => rfl
  | found hpoll => exact ⟨hp.undefined hpoll, rfl⟩

theorem Asked.interval (h : p.Asked probe x) : x.2.1.interval = p.interval := by
  cases h <;> rfl

end

section
variable [ByteSource σ] (p : Poller) (source : σ) (region : ByteRange) (now : Nat)

/-- The source is asked only while the status is defined, and only for what is not empty. -/
theorem fetch_eq :
    p.fetch source region now =
      if p.status = .undefined then (none, p, source)
      else if region.IsEmpty then (some #[], p, source)
      else if (Probe.request source region).1 then
        match ByteSource.read (Probe.request source region).2 region with
        | .ok data => (some data, p, (Probe.request source region).2)
        | .error _ => (none, p.miss region now, (Probe.request source region).2)
      else (none, p.miss region now, (Probe.request source region).2) := by
  unfold fetch check
  cases hstatus : p.status with
  | undefined => rfl
  | defined =>
    by_cases hregion : region.IsEmpty
    · simp [hregion]
    · cases hasked : (Probe.request source region).1 with
      | false => simp [hregion, hasked]
      | true =>
        cases hread : ByteSource.read (Probe.request source region).2 region <;>
        simp [hregion, hasked, hread]

theorem fetch_poller :
    if (p.fetch source region now).1.isSome then p.status = .defined ∧
      (p.fetch source region now).2.1 = p
    else (p.fetch source region now).2.1 = if p.status = .undefined then p
      else p.miss region now := by
  have hdefined : ¬ p.status = .undefined → p.status = .defined := by cases p.status <;> simp
  rw [fetch_eq]
  by_cases hstatus : p.status = .undefined
  · simp [hstatus]
  · repeat' split
    all_goals simp_all

theorem Coherent.fetch (h : p.Coherent) : (p.fetch source region now).2.1.Coherent := by
  have hpoller := fetch_poller p source region now
  split at hpoller
  · rw [hpoller.2]
    exact h
  split at hpoller
  · rw [hpoller]
    exact h
  · rw [hpoller]
    exact fun _ => rfl

theorem fetch_status : (p.fetch source region now).2.1.status =
    if (p.fetch source region now).1.isSome then .defined else .undefined := by
  have hpoller := fetch_poller p source region now
  split at hpoller
  · rw [if_pos ‹_›, hpoller.2]
    exact hpoller.1
  · rw [if_neg ‹_›, hpoller]
    split
    · assumption
    · rfl

theorem interval_fetch : (p.fetch source region now).2.1.interval = p.interval := by
  have hpoller := p.fetch_poller source region now
  split at hpoller
  · rw [hpoller.2]
  · rw [hpoller]
    split <;> rfl

end

-- While bytes are missing, only polls ask for them.
theorem check_of_undefined [Probe π] (hstatus : p.status = .undefined) (probe : π)
    (region : ByteRange) (now : Nat) :
    p.check probe region now = (false, p, probe) :=
  if_pos hstatus

theorem fetch_of_undefined [ByteSource σ] (hstatus : p.status = .undefined) (source : σ)
    (region : ByteRange) (now : Nat) :
    p.fetch source region now = (none, p, source) := by
  rw [fetch_eq, if_pos hstatus]

end HexEditor.Poller
