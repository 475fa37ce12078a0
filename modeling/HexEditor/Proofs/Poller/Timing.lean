import HexEditor.Proofs.Poller.Run
import Mathlib.Data.List.Chain
import Mathlib.Order.Bounds.Basic

/-!
# When a poller asks

A host draws and ticks as often as it likes, and the poller sees to it that a source with missing
bytes is not asked too often: `run_asks` says that only ticks ask then, that an interval passes
before the first question and between any two, and that `nextPollIn` tells exactly when the next
tick will ask. What an operation asks is read off a record that is kept by the source itself.
-/

namespace HexEditor

/-- A source with a record of the ranges that it was asked for. -/
structure Recorded (π : Type) where
  inner : π
  asked : List ByteRange

namespace Recorded

instance instProbe [Probe π] : Probe (Recorded π) where
  request r region :=
    ((Probe.request r.inner region).1, ⟨(Probe.request r.inner region).2, r.asked ++ [region]⟩)
  keepsTrying r := Probe.keepsTrying r.inner

instance instByteSource [ByteSource σ] : ByteSource (Recorded σ) where
  length r := ByteSource.length r.inner
  read r := ByteSource.read r.inner
  write r offset new := (fun inner => { r with inner }) <$> ByteSource.write r.inner offset new
  editable r := ByteSource.editable r.inner
  takeChange r :=
    ((ByteSource.takeChange r.inner).1, { r with inner := (ByteSource.takeChange r.inner).2 })

end Recorded

namespace Poller

def recording (asked : List ByteRange) (x : α × Poller × π) : α × Poller × Recorded π :=
  (x.1, x.2.1, ⟨x.2.2, asked⟩)

/-- The ranges that an operation asks its source for. -/
def Op.asked (p : Poller) : Op → List ByteRange
  | check probe region now => (p.check (Recorded.mk probe []) region now).2.2.asked
  | fetch source region now => (p.fetch (Recorded.mk source []) region now).2.2.asked
  | tick probe now => (p.tick (Recorded.mk probe []) now).2.2.asked
  | pollNow probe now => (p.pollNow (Recorded.mk probe []) now).2.2.asked
  | setInterval _ | reset => []

-- ---------------------------------------------------------------------------
-- Records change nothing
-- ---------------------------------------------------------------------------

section
variable [Probe π] (p : Poller) (probe : π) (asked : List ByteRange) (region : ByteRange)
  (now : Nat)

theorem check_recorded :
    p.check (Recorded.mk probe asked) region now =
      recording (if p.status = .undefined ∨ region.IsEmpty then asked else asked ++ [region])
        (p.check probe region now) := by
  unfold check recording
  cases hstatus : p.status with
  | undefined => simp
  | defined =>
    by_cases hregion : region.IsEmpty
    · simp [hregion]
    · cases hasked : (Probe.request probe region).1 <;> simp [hregion, Probe.request, hasked]

theorem pollNow_recorded :
    p.pollNow (Recorded.mk probe asked) now =
      recording (asked ++ p.poll.toList.map (·.region)) (p.pollNow probe now) := by
  unfold pollNow recording
  cases hpoll : p.poll with
  | none => simp
  | some poll =>
    cases hasked : (Probe.request probe poll.region).1 with
    | true => simp [Probe.request, hasked]
    | false =>
      cases htries : Probe.keepsTrying (Probe.request probe poll.region).2 <;>
        simp [Probe.request, hasked, Probe.keepsTrying, htries]

theorem tick_recorded :
    p.tick (Recorded.mk probe asked) now =
      recording (asked ++ (p.poll.filter (·.due ≤ now)).toList.map (·.region))
        (p.tick probe now) := by
  unfold tick
  cases hpoll : p.poll with
  | none => simp [recording]
  | some poll =>
    by_cases hdue : poll.due ≤ now
    · simp [hdue, pollNow_recorded, hpoll, Option.filter_some]
    · simp [hdue, recording, Option.filter_some]

end

theorem fetch_recorded [ByteSource σ] (p : Poller) (source : σ) (asked : List ByteRange)
    (region : ByteRange) (now : Nat) :
    p.fetch (Recorded.mk source asked) region now =
      recording (if p.status = .undefined ∨ region.IsEmpty then asked else asked ++ [region])
        (p.fetch source region now) := by
  rw [fetch_eq, fetch_eq]
  cases hstatus : p.status with
  | undefined => simp [recording]
  | defined =>
    by_cases hregion : region.IsEmpty
    · simp [hregion, recording]
    · cases hasked : (Probe.request source region).1 with
      | false => simp [hregion, Probe.request, hasked, recording]
      | true =>
        cases hread : ByteSource.read (Probe.request source region).2 region <;>
          simp [hregion, Probe.request, hasked, recording]

def Op.recorded : Op → Op
  | check probe region now => check (Recorded.mk probe []) region now
  | fetch source region now => fetch (Recorded.mk source []) region now
  | tick probe now => tick (Recorded.mk probe []) now
  | pollNow probe now => pollNow (Recorded.mk probe []) now
  | setInterval interval => setInterval interval
  | reset => reset

theorem Op.apply_recorded (op : Op) (p : Poller) : op.recorded.apply p = op.apply p := by
  cases op with
  | check => simp [recorded, apply, check_recorded, recording]
  | fetch => simp [recorded, apply, fetch_recorded, recording]
  | tick => simp [recorded, apply, tick_recorded, recording]
  | pollNow => simp [recorded, apply, pollNow_recorded, recording]
  | setInterval | reset => rfl

-- ---------------------------------------------------------------------------
-- Single operations
-- ---------------------------------------------------------------------------

def Op.time? : Op → Option Nat
  | check _ _ now | fetch _ _ now | tick _ now | pollNow _ now => some now
  | setInterval _ | reset => none

def Op.IsTick : Op → Prop
  | tick _ _ => True
  | _ => False

/-- What a host does again and again: it draws, and it ticks. -/
def Op.Regular : Op → Prop
  | check _ _ _ | fetch _ _ _ | tick _ _ => True
  | pollNow _ _ | setInterval _ | reset => False

variable {p : Poller} {op : Op} {ops : List Op}

theorem check_poller [Probe π] (p : Poller) (probe : π) (region : ByteRange) (now : Nat) :
    (p.check probe region now).2.1 = p ∨ (p.check probe region now).2.1 = p.miss region now := by
  unfold check
  repeat' split
  all_goals simp

theorem asked_tick_eq [Probe π] (p : Poller) (probe : π) (now : Nat) :
    (Op.tick probe now).asked p = (p.poll.filter (·.due ≤ now)).toList.map (·.region) := by
  simp [Op.asked, tick_recorded, recording]

theorem asked_tick_iff [Probe π] (p : Poller) (probe : π) (now : Nat) :
    (Op.tick probe now).asked p ≠ [] ↔ ∃ poll, p.poll = some poll ∧ poll.due ≤ now := by
  rw [asked_tick_eq]
  cases hpoll : p.poll with
  | none => simp
  | some poll => by_cases hdue : poll.due ≤ now <;> simp [Option.filter_some, hdue]

theorem Asked.defined [Probe π] {probe : π} (h : p.Asked probe x) (hp : p.status = .defined) :
    x.2.1.status = .defined := by
  cases h with
  | found => rfl
  | idle | missing | gaveUp => exact hp

theorem interval_apply (hop : op.Regular) : (op.apply p).interval = p.interval := by
  cases op with
  | check probe region now =>
    rcases p.check_poller probe region now with hkept | hmissed
    · rw [Op.apply, hkept]
    · rw [Op.apply, hmissed]
      rfl
  | fetch source region now => exact p.interval_fetch source region now
  | tick probe now => exact (p.asked_tick probe now).interval
  | _ => cases hop

theorem interval_run (hops : ∀ op ∈ ops, op.Regular) : (p.run ops).interval = p.interval := by
  induction ops generalizing p with
  | nil => rfl
  | cons op ops ih =>
    rw [List.forall_mem_cons] at hops
    exact (ih hops.2).trans (interval_apply hops.1)

-- ---------------------------------------------------------------------------
-- Deadlines
-- ---------------------------------------------------------------------------

/-- A poll that is armed is due an interval after the given time. -/
def DueSince (p : Poller) (t : Nat) : Prop :=
  ∀ poll, p.poll = some poll → poll.due = t + p.interval

theorem dueSince_miss (p : Poller) (region : ByteRange) (now : Nat) :
    (p.miss region now).DueSince now := by
  rintro poll ⟨⟩
  rfl

theorem dueSince_pollNow [Probe π] (p : Poller) (probe : π) (now : Nat) :
    (p.pollNow probe now).2.1.DueSince now := by
  unfold pollNow
  cases hpoll : p.poll with
  | none =>
    intro poll hpoll'
    cases hpoll.symm.trans hpoll'
  | some poll =>
    simp only
    split
    · rintro - ⟨⟩
    split
    · rintro - ⟨⟩
      rfl
    · rintro - ⟨⟩

/-- Bytes turn out to be missing when they are checked for or fetched, and a poll is armed at that
time. -/
theorem dueSince_apply (hdefined : p.status = .defined) (hop : op.Regular)
    (htime : op.time? = some t) (hmissing : (op.apply p).status = .undefined) :
    (op.apply p).DueSince t := by
  have hsame : op.apply p ≠ p := by
    intro hsame
    rw [hsame, hdefined] at hmissing
    cases hmissing
  cases op with
  | check probe region now =>
    cases htime
    rw [Op.apply, (p.check_poller probe region t).resolve_left hsame]
    exact p.dueSince_miss region t
  | fetch source region now =>
    cases htime
    have hpoller := p.fetch_poller source region t
    split at hpoller
    · exact absurd hpoller.2 hsame
    · rw [hdefined] at hpoller
      rw [Op.apply, hpoller]
      exact p.dueSince_miss region t
  | tick probe now =>
    cases hmissing.symm.trans ((p.asked_tick probe now).defined hdefined)
  | _ => cases hop

/-- All that drawing and ticking can do while bytes are missing: nothing, or a tick asks once an
interval has passed. -/
theorem DueSince.apply (h : p.DueSince t) (hmissing : p.status = .undefined) (hop : op.Regular) :
    (op.asked p = [] ∧ op.apply p = p) ∨
      ∃ now region, op.IsTick ∧ op.time? = some now ∧ op.asked p = [region] ∧ t + p.interval ≤ now ∧
        (op.apply p).DueSince now := by
  cases op with
  | check probe region now => exact .inl (by simp [Op.asked, Op.apply, check_of_undefined hmissing])
  | fetch source region now =>
    exact .inl (by simp [Op.asked, Op.apply, fetch_of_undefined hmissing])
  | tick probe now =>
    rw [asked_tick_eq]
    cases hpoll : p.poll with
    | none => exact .inl (by simp [Op.apply, tick, hpoll])
    | some poll =>
      by_cases hdue : poll.due ≤ now
      · refine .inr ⟨now, poll.region, trivial,
          rfl, by simp [Option.filter_some, hdue], h poll hpoll ▸ hdue, ?_⟩
        simp only [Op.apply, tick, hpoll, hdue, if_true]
        exact p.dueSince_pollNow probe now
      · exact .inl (by simp [Op.apply, tick, hpoll, Option.filter_some, hdue])
  | _ => cases hop

-- ---------------------------------------------------------------------------
-- Runs
-- ---------------------------------------------------------------------------

/-- The operations of a run that ask for something, each of them once for every question. -/
def askers (p : Poller) : List Op → List Op
  | [] => []
  | op :: ops => (op.asked p).map (fun _ => op) ++ askers (op.apply p) ops

theorem DueSince.askers (h : p.DueSince t) (hops : ∀ op ∈ ops, op.Regular)
    (hmissing : ∀ n < ops.length, (p.run (ops.take n)).status = .undefined) :
    (∀ op ∈ p.askers ops, op.IsTick) ∧
      (t :: (p.askers ops).filterMap Op.time?).IsChain fun a b => a + p.interval ≤ b := by
  induction ops generalizing p t with
  | nil => simp [Poller.askers]
  | cons op ops ih =>
    obtain ⟨hop, hops⟩ := List.forall_mem_cons.mp hops
    have hnow : p.status = .undefined := hmissing 0 (Nat.zero_lt_succ _)
    have hlater : ∀ n < ops.length, ((op.apply p).run (ops.take n)).status = .undefined :=
      fun n hn => hmissing (n + 1) (Nat.succ_lt_succ hn)
    have hinterval := interval_apply (p := p) hop
    rcases h.apply hnow hop with ⟨hasked, hkept⟩ | ⟨now, region, htick, htime, hasked, hdue,
      hrearmed⟩
    · rw [hkept] at hlater
      simpa [Poller.askers, hasked, hkept] using ih h hops hlater
    · obtain ⟨hticks, hchain⟩ := ih hrearmed hops hlater
      rw [hinterval] at hchain
      simp only [Poller.askers, hasked, List.map_cons, List.map_nil, List.singleton_append,
        List.forall_mem_cons,
        List.filterMap_cons_some htime, List.isChain_cons_cons]
      exact ⟨⟨htick, hticks⟩, hdue, hchain⟩

theorem askers_of_idle (hpoll : p.poll = none) (hticks : ∀ op ∈ ops, op.IsTick) :
    p.askers ops = [] := by
  induction ops with
  | nil => rfl
  | cons op ops ih =>
    obtain ⟨htick, hrest⟩ := List.forall_mem_cons.mp hticks
    cases op with
    | tick probe now =>
      have hkept : (Op.tick probe now).apply p = p := by simp [Op.apply, tick, hpoll]
      simp [askers, asked_tick_eq, hpoll, hkept, ih hrest]
    | _ => cases htick

theorem nextPollIn_eq_some_iff [Probe π] (p : Poller) (probe : π) (now d : Nat) :
    p.nextPollIn now = some d ↔ IsLeast {d | (Op.tick probe (now + d)).asked p ≠ []} d := by
  simp only [IsLeast, lowerBounds, Set.mem_ofPred_eq, asked_tick_iff, nextPollIn]
  cases hpoll : p.poll with
  | none => simp
  | some poll =>
    simp only [Option.map_some, Option.some.injEq, exists_eq_left']
    constructor
    · rintro rfl
      exact ⟨by omega, fun _ _ => by omega⟩
    · rintro ⟨hdue, hleast⟩
      have := @hleast (poll.due - now) (by omega)
      omega

theorem nextPollIn_eq_none_iff (p : Poller) (now : Nat) :
    p.nextPollIn now = none ↔ ∀ ticks :
      List Op, (∀ op ∈ ticks, op.IsTick) → p.askers ticks = [] := by
  rw [nextPollIn, Option.map_eq_none_iff]
  constructor
  · intro hpoll ticks hticks
    exact askers_of_idle hpoll hticks
  · intro hidle
    cases hpoll : p.poll with
    | none => rfl
    | some poll =>
      have hasks := hidle [.tick ({} : Scripted) poll.due] (by simp [Op.IsTick])
      simp [askers, asked_tick_eq, hpoll, Option.filter_some] at hasks

/-- In a run of checks, fetches and ticks, at whatever times and with whatever sources: from the
time at which bytes turn out to be missing until they are there, only ticks ask for them, the first
one no sooner than an interval later, and each of the others an interval after the one before at the
earliest. At any point of the run the time to the next poll is the least after which a tick asks,
and there is none exactly if no tick will ever ask. -/
theorem run_asks (interval : Nat) (ops : List Op) (hops : ∀ op ∈ ops, op.Regular) :
    (∀ before op wait after t, ops = before ++ op :: (wait ++ after) → op.time? = some t →
      (run { interval } before).status = .defined →
      (run { interval } (before ++ [op])).status = .undefined →
      (∀ n < wait.length, (run { interval } (before ++ op :: wait.take n)).status = .undefined) →
      let asking := (run { interval } (before ++ [op])).askers wait
      (∀ asker ∈ asking, asker.IsTick) ∧ (t :: asking.filterMap Op.time?).IsChain fun a b =>
      a + interval ≤ b) ∧
    ∀ {π : Type} [Probe π] (probe : π) (now : Nat),
      let p := run { interval } ops
      (∀ d, p.nextPollIn now = some d ↔ IsLeast {d | (Op.tick probe (now + d)).asked p ≠ []} d) ∧
      (p.nextPollIn now = none ↔ ∀ ticks : List Op, (∀ op ∈ ticks, op.IsTick) →
        p.askers ticks = []) := by
  constructor
  · rintro before op wait after t rfl htime hdefined hmissing hwait
    simp only [List.forall_mem_append, List.forall_mem_cons] at hops
    obtain ⟨hbefore, hop, hduring, -⟩ := hops
    have hrun (done : List Op) : run { interval } (before ++ op :: done) =
      (op.apply (run { interval } before)).run done := by
      simp [run]
    simp only [hrun] at hmissing hwait ⊢
    have hdue := dueSince_apply hdefined hop htime hmissing
    have hinterval : (op.apply (run { interval } before)).interval = interval :=
      (interval_apply hop).trans (interval_run hbefore)
    have hasks := hdue.askers hduring hwait
    rwa [hinterval] at hasks
  · intro π _ probe now p
    exact ⟨p.nextPollIn_eq_some_iff probe now, p.nextPollIn_eq_none_iff now⟩

/-- Bytes that are missing when they are fetched, and again when they are asked for after an
interval. Of all that is done then, only the ticks at 300 and 560 ask. -/
theorem run_asks_late :
    let missing : Scripted := { length := 16, script := { last := false } }
    let present : Scripted := { length := 16 }
    let fetched : Op := .fetch missing ⟨0, 16⟩ 0
    let wait : List Op :=
      [.check missing ⟨0, 8⟩ 100, .tick present 240, .tick missing 300, .fetch present ⟨0, 16⟩ 400,
        .tick missing 549, .tick present 560]
    let p := run { interval := 250 } [fetched]
    p.status = .undefined ∧ (p.askers wait).filterMap Op.time? = [300, 560] ∧
      (∀ asker ∈ p.askers wait, asker.IsTick) ∧
      p.nextPollIn 100 = some 150 ∧ IsLeast {d | (Op.tick present (100 + d)).asked p ≠ []} 150 := by
  intro missing present fetched wait p
  have hops : ∀ op ∈ fetched :: (wait ++ []), op.Regular := by simp [fetched, wait, Op.Regular]
  have hfetched : ∀ op ∈ [fetched], op.Regular := by simp [fetched, Op.Regular]
  have hasks := (run_asks 250 _ hops).1 [] fetched wait [] 0 rfl rfl rfl rfl (by decide)
  have hnext := ((run_asks 250 _ hfetched).2 present 100).1 150
  exact ⟨rfl, rfl, hasks.1, rfl, hnext.mp rfl⟩

end Poller

end HexEditor
