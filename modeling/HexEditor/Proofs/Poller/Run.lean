import HexEditor.Proofs.Poller
import HexEditor.Source

/-!
# Runs of a poller

A poller is handed a source anew with every operation, and the source may answer as it likes.
`run_polls` says what holds of a poller all the same: polls and status fit each other, the answers
tell the status, and once a source has given up it is left alone until the poller is reset.
-/

namespace HexEditor.Poller

/-- What can be done to a poller, with probes and sources of any kind. -/
inductive Op : Type 1
  | check {π : Type} [Probe π] (probe : π) (region : ByteRange) (now : Nat)
  | fetch {σ : Type} [ByteSource σ] (source : σ) (region : ByteRange) (now : Nat)
  | tick {π : Type} [Probe π] (probe : π) (now : Nat)
  | pollNow {π : Type} [Probe π] (probe : π) (now : Nat)
  | setInterval (interval : Nat)
  | reset

def Op.apply (p : Poller) : Op → Poller
  | check probe region now => (p.check probe region now).2.1
  | fetch source region now => (p.fetch source region now).2.1
  | tick probe now => (p.tick probe now).2.1
  | pollNow probe now => (p.pollNow probe now).2.1
  | setInterval interval => { p with interval }
  | reset => p.reset

def run (p : Poller) (ops : List Op) : Poller :=
  ops.foldl Op.apply p

-- ---------------------------------------------------------------------------
-- Armed polls
-- ---------------------------------------------------------------------------

/-- A poll is armed only while bytes are missing, and only for a region that has bytes. -/
def Waits (p : Poller) : Prop :=
  ∀ poll, p.poll = some poll → p.status = .undefined ∧ ¬ poll.region.IsEmpty

variable {p : Poller}

theorem Waits.coherent (h : p.Waits) : p.Coherent := by
  intro hpoll
  obtain ⟨poll, hpoll⟩ := Option.isSome_iff_exists.mp hpoll
  exact (h poll hpoll).1

theorem waits_miss (p : Poller) (hregion : ¬ region.IsEmpty) (now : Nat) :
    (p.miss region now).Waits := by
  rintro poll ⟨⟩
  exact ⟨rfl, hregion⟩

theorem Waits.check [Probe π] (h : p.Waits) (probe : π) (region : ByteRange) (now : Nat) :
    (p.check probe region now).2.1.Waits := by
  unfold Poller.check
  split
  · exact h
  split
  · exact h
  rename_i hregion
  simp only
  split
  · exact h
  · exact p.waits_miss hregion now

theorem Waits.fetch [ByteSource σ] (h : p.Waits) (source : σ) (region : ByteRange) (now : Nat) :
    (p.fetch source region now).2.1.Waits := by
  rw [fetch_eq]
  split
  · exact h
  split
  · exact h
  rename_i hregion
  repeat' split
  · exact h
  · exact p.waits_miss hregion now
  · exact p.waits_miss hregion now

theorem Waits.asked [Probe π] {probe : π} (h : p.Waits) (hx : p.Asked probe x) : x.2.1.Waits := by
  cases hx with
  | idle => exact h
  | found | gaveUp => exact nofun
  | missing hpoll due =>
    obtain ⟨hstatus, hregion⟩ := h _ hpoll
    rintro poll ⟨⟩
    exact ⟨hstatus, hregion⟩

theorem Waits.apply (h : p.Waits) (op : Op) : (op.apply p).Waits := by
  cases op with
  | check probe region now => exact h.check probe region now
  | fetch source region now => exact h.fetch source region now
  | tick probe now => exact h.asked (p.asked_tick probe now)
  | pollNow probe now => exact h.asked (p.asked_pollNow probe now)
  | setInterval => exact h
  | reset => exact nofun

theorem Waits.run (h : p.Waits) (ops : List Op) : (p.run ops).Waits := by
  induction ops generalizing p with
  | nil => exact h
  | cons op ops ih => exact ih (h.apply op)

theorem Asked.status_iff [Probe π] {probe : π} (hx : p.Asked probe x) (hp : p.Coherent) :
    x.1 = true ↔ x.2.1.status ≠ p.status := by
  have hstatus := hx.status hp
  cases hx : x.1 with
  | false => simpa [hx] using hstatus
  | true =>
    rw [hx, if_pos rfl] at hstatus
    simp [hstatus.1, hstatus.2]

-- ---------------------------------------------------------------------------
-- Sources that have given up
-- ---------------------------------------------------------------------------

/-- Bytes are missing, and nobody asks for them any more. -/
def GaveUp (p : Poller) : Prop :=
  p.status = .undefined ∧ p.poll = none

/-- The operation has no answer but "no", whatever the source would say: it is the same for every
probe and every source, and leaves them as they are. So neither are they asked for a region nor is
one read. -/
def Op.Mute (p : Poller) : Op → Prop
  | check _ region now =>
    ∀ {π : Type} [Probe π] (probe : π), p.check probe region now = (false, p, probe)
  | fetch _ region now =>
    ∀ {σ : Type} [ByteSource σ] (source : σ), p.fetch source region now = (none, p, source)
  | tick _ now => ∀ {π : Type} [Probe π] (probe : π), p.tick probe now = (false, p, probe)
  | pollNow _ now => ∀ {π : Type} [Probe π] (probe : π), p.pollNow probe now = (false, p, probe)
  | setInterval _ => True
  | reset => False

theorem GaveUp.mute (h : p.GaveUp) {op : Op} (hop : op ≠ .reset) : op.Mute p := by
  obtain ⟨hstatus, hpoll⟩ := h
  cases op with
  | check probe region now => intro π _ probe; exact check_of_undefined hstatus probe region now
  | fetch source region now => intro σ _ source; exact fetch_of_undefined hstatus source region now
  | tick probe now => intro π _ probe; simp [Poller.tick, hpoll]
  | pollNow probe now => intro π _ probe; simp [Poller.pollNow, hpoll]
  | setInterval => trivial
  | reset => exact hop rfl

theorem Op.Mute.apply {op : Op} (h : op.Mute p) :
    (op.apply p).status = p.status ∧ (op.apply p).poll = p.poll := by
  cases op with
  | check probe => simp [Op.apply, h probe]
  | fetch source => simp [Op.apply, h source]
  | tick probe => simp [Op.apply, h probe]
  | pollNow probe => simp [Op.apply, h probe]
  | setInterval => exact ⟨rfl, rfl⟩
  | reset => exact h.elim

theorem GaveUp.run (h : p.GaveUp) {ops : List Op} (hops : ∀ op ∈ ops, op ≠ .reset) :
    (p.run ops).GaveUp := by
  induction ops generalizing p with
  | nil => exact h
  | cons op ops ih =>
    rw [List.forall_mem_cons] at hops
    obtain ⟨hstatus, hpoll⟩ := (h.mute hops.1).apply
    exact ih ⟨hstatus.trans h.1, hpoll.trans h.2⟩ hops.2

/-- Whatever is done to a poller with whatever sources: an armed poll means that bytes are missing,
and is for some bytes; a tick or a poll says so exactly when it changes the status; bytes are
fetched exactly when the status is defined afterwards; and once the source has given up, nothing but
a reset changes status or poll, has another answer than no, or asks a source for anything. -/
theorem run_polls (interval : Nat) (ops : List Op) :
    let p := run { interval } ops
    (∀ poll, p.poll = some poll → p.status = .undefined ∧ ¬ poll.region.IsEmpty) ∧
    (∀ {π : Type} [Probe π] (probe : π) now,
      ((p.tick probe now).1 = true ↔ (p.tick probe now).2.1.status ≠ p.status) ∧
        ((p.pollNow probe now).1 = true ↔ (p.pollNow probe now).2.1.status ≠ p.status)) ∧
    (∀ {σ : Type} [ByteSource σ] (source : σ) region now,
      (p.fetch source region now).1.isSome = true ↔
      (p.fetch source region now).2.1.status = .defined) ∧
    (p.GaveUp → ∀ further : List Op, (∀ op ∈ further, op ≠ .reset) →
      (p.run further).status = p.status ∧ (p.run further).poll = p.poll ∧
        ∀ op : Op, op ≠ .reset → op.Mute (p.run further)) := by
  intro p
  have hwaits : p.Waits := Waits.run (p := { interval }) nofun ops
  refine ⟨hwaits, ?_, ?_, ?_⟩
  · intro π _ probe now
    exact ⟨(p.asked_tick probe now).status_iff hwaits.coherent,
      (p.asked_pollNow probe now).status_iff hwaits.coherent⟩
  · intro σ _ source region now
    rw [fetch_status]
    split <;> simp_all
  · intro hp further hfurther
    have hlater := hp.run hfurther
    exact ⟨hlater.1.trans hp.1.symm, hlater.2.trans hp.2.symm, fun op => hlater.mute⟩

/-- A source that never has the bytes and gives up at the second question. Later the bytes would be
there, but nobody asks for them. -/
theorem run_polls_givenUp :
    let missing : Scripted := { length := 16, script := { last := false }, givesUp := true }
    let present : Scripted := { length := 16 }
    let p := run { interval := 250 } [.fetch missing ⟨0, 16⟩ 0, .tick missing 250]
    let further : List Op :=
      [.tick present 500, .fetch present ⟨0, 16⟩ 600, .setInterval 10, .pollNow present 700]
    p.GaveUp ∧ (p.run further).status = .undefined ∧ (p.run further).poll = none ∧
      (p.run further).fetch present ⟨0, 16⟩ 800 = (none, p.run further, present) := by
  intro missing present p further
  have hp : p.GaveUp := by
    refine ⟨?_, ?_⟩ <;> decide
  have hfurther : ∀ op ∈ further, op ≠ .reset := by simp [further]
  obtain ⟨hstatus, hpoll, hmute⟩ :=
    (run_polls 250 [.fetch missing ⟨0, 16⟩ 0, .tick missing 250]).2.2.2 hp further hfurther
  exact ⟨hp, hstatus.trans hp.1, hpoll.trans hp.2, hmute (.fetch present ⟨0, 16⟩ 800) nofun present⟩

end HexEditor.Poller
