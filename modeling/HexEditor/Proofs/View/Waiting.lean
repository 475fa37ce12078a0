import HexEditor.Proofs.Source.Countdown
import HexEditor.Proofs.View.Quiet

/-!
# Waiting for a source that is slow

While bytes are missing a host draws frames, lets time pass and polls. Frames do not ask again, and
neither do ticks before the poll is due. So the polls alone decide when the bytes are there:
`render_latency` counts them for a remote memory, and says that the frame drawn then is the one that
the same bytes in memory would have had from the start.
-/

namespace HexEditor

def Call.Passive : Call σ → Prop
  | render _ => True
  | tick _ => True
  | pollNow _ => True
  | _ => False

/-- Whether a call asks again for the bytes that are missing. -/
def Call.polls (v : View σ) : Call σ → Bool
  | pollNow _ => v.poller.poll.isSome
  | tick now => v.poller.poll.any (·.due ≤ now)
  | _ => false

namespace View

def polls [ByteSource σ] (v : View σ) : List (Call σ) → Nat
  | [] => 0
  | c :: cs => (c.polls v).toNat + (c.apply v).polls cs

/-- A view as it was made, but for what was polled since: after `n` more polls the bytes that it
shows are there. -/
inductive Awaits [ByteSource σ] (base : View σ) (data : Bytes) : Nat → View σ → Prop
  | arrived (hlength : ByteSource.length s = base.length)
      (hs : ByteSource.Holds base.visibleRange data s) (events : List Event) :
      Awaits base data 0 { base with source := some s, poller := base.poller.reset, events }
  | waiting (hlength : ByteSource.length s = base.length)
      (hs : ByteSource.Arrives base.visibleRange data n s) (due : Nat) (events : List Event) :
      Awaits base data (n + 1) { base with
        source := some s
        poller := { base.poller with status := .undefined, poll := some ⟨base.visibleRange, due⟩ }
        events }

variable [ByteSource σ] {v base w : View σ} {s : σ}

-- ---------------------------------------------------------------------------
-- Single calls
-- ---------------------------------------------------------------------------

theorem fetch_of_kept (hs : v.source = some s)
    (h : v.poller.fetch s v.visibleRange now = (data, v.poller, s)) :
    v.fetch now = (data, v) := by
  have hkeep : { v with source := some s } = v := by rw [← hs]
  simp [fetch, hs, h, hkeep]

theorem pollNow_of_idle (h : v.poller.poll = none) (now : Nat) : v.pollNow now = v := by
  cases hs : v.source with
  | none => simp [pollNow, hs]
  | some s =>
    have hkeep : { v with source := some s } = v := by rw [← hs]
    simp [pollNow, hs, Poller.pollNow, h, hkeep]

theorem tick_of_quiet (hs : v.source = some s) (hquiet : ByteSource.takeChange s = (false, s))
    (now : Nat) :
    v.tick now = if v.poller.poll.any (·.due ≤ now) then v.pollNow now else v := by
  have hkeep : { v with source := some s } = v := by rw [← hs]
  cases hpoll : v.poller.poll with
  | none => simp [tick, hs, hquiet, Poller.tick, hpoll, hkeep]
  | some poll =>
    by_cases hdue : poll.due ≤ now
    · simp [tick, pollNow, hs, hquiet, Poller.tick, hpoll, hdue]
    · simp [tick, hs, hquiet, Poller.tick, hpoll, hdue, hkeep]

theorem grid_asked (hlength : ByteSource.length s = base.length) (p : Poller)
    (events : List Event) :
    { base with source := some s, poller := p, events }.grid = base.grid := by
  simp only [grid, View.length] at hlength ⊢
  rw [← hlength]
  rfl

theorem Awaits.fetch_arrived (h : Awaits base data 0 w) (hshown : ¬ base.visibleRange.IsEmpty)
    (now : Nat) :
    w.fetch now = (some data, w) := by
  cases h with
  | arrived hlength hs events =>
    apply fetch_of_kept rfl
    simp only [visibleRange, grid_asked hlength]
    exact (Poller.Settled.reset base.poller).fetch_eq hshown hs.request hs.read now

theorem Awaits.fetch_waiting (h : Awaits base data (n + 1) w) (now : Nat) :
    w.fetch now = (none, w) := by
  cases h with
  | waiting hlength hs due events => exact fetch_of_kept rfl (by rw [Poller.fetch_eq, if_pos rfl])

theorem Awaits.render_eq (h : Awaits base data n w) (hshown : ¬ base.visibleRange.IsEmpty)
    (now : Nat) :
    (w.render now).2 = w := by
  cases n with
  | zero => exact congrArg Prod.snd (h.fetch_arrived hshown now)
  | succ n => exact congrArg Prod.snd (h.fetch_waiting now)

theorem Awaits.tick_eq (h : Awaits base data n w) (now : Nat) :
    w.tick now = if w.poller.poll.any (·.due ≤ now) then w.pollNow now else w := by
  cases h with
  | arrived hlength hs => exact tick_of_quiet rfl hs.quiet now
  | waiting hlength hs => exact tick_of_quiet rfl hs.quiet now

theorem Awaits.settled (h : Awaits base data 0 w) : w.poller.Settled := by
  cases h with
  | arrived => exact Poller.Settled.reset base.poller

theorem Awaits.armed (h : Awaits base data (n + 1) w) :
    w.poller.status = .undefined ∧ w.poller.poll.isSome = true := by
  cases h with
  | waiting => exact ⟨rfl, rfl⟩

theorem Awaits.pollNow (h : Awaits base data (n + 1) w) (now : Nat) :
    Awaits base data n (w.pollNow now) := by
  cases h with
  | waiting hlength hs due events =>
    rw [pollNow_eq _ rfl]
    cases hs with
    | now _ hfound hkept ht =>
      simp only [Poller.pollNow, hfound, if_true]
      exact .arrived (hkept.trans hlength) ht _
    | later _ hmissing htry hkept ht =>
      simp only [Poller.pollNow, hmissing, htry, if_true, if_false, Bool.false_eq_true]
      exact .waiting (hkept.trans hlength) ht _ _

-- ---------------------------------------------------------------------------
-- Runs
-- ---------------------------------------------------------------------------

/-- Every poll brings the bytes one poll closer, and nothing else does. -/
theorem Awaits.apply {c : Call σ} (h : Awaits base data n w) (hc : c.Passive)
    (hshown : ¬ base.visibleRange.IsEmpty) :
    ∃ m, n = (c.polls w).toNat + m ∧ Awaits base data m (c.apply w) := by
  have hpoll (now : Nat) : ∃ m, n = w.poller.poll.isSome.toNat + m ∧
    Awaits base data m (w.pollNow now) := by
    cases n with
    | zero =>
      obtain ⟨-, hidle⟩ := h.settled
      exact ⟨0, by simp [hidle], by rwa [pollNow_of_idle hidle]⟩
    | succ n => exact ⟨n, by simp [h.armed.2, Nat.add_comm], h.pollNow now⟩
  cases c with
  | render now =>
    have hkeep : (Call.render now).apply w = w := h.render_eq hshown now
    exact ⟨n, by simp [Call.polls], by rwa [hkeep]⟩
  | pollNow now => exact hpoll now
  | tick now =>
    have htick : (Call.tick now).apply w = _ := h.tick_eq now
    rw [htick]
    cases hdue : w.poller.poll.any (·.due ≤ now) with
    | false => exact ⟨n, by simp [Call.polls, hdue], by simpa using h⟩
    | true =>
      have harmed : w.poller.poll.isSome = true := by
        cases hsome : w.poller.poll with
        | none => simp [hsome] at hdue
        | some poll => rfl
      obtain ⟨m, hm, hw⟩ := hpoll now
      exact ⟨m, by simpa [Call.polls, hdue, harmed] using hm, by simpa using hw⟩
  | _ => exact hc.elim

theorem Awaits.run {cs : List (Call σ)} (h : Awaits base data n w) (hcs : ∀ c ∈ cs, c.Passive)
    (hshown : ¬ base.visibleRange.IsEmpty) :
    ∃ m, n = w.polls cs + m ∧ Awaits base data m (cs.foldl Call.apply w) := by
  induction cs generalizing n w with
  | nil => exact ⟨n, by simp [polls], h⟩
  | cons c cs ih =>
    obtain ⟨hc, hcs⟩ := List.forall_mem_cons.mp hcs
    obtain ⟨k, hk, hnext⟩ := h.apply hc hshown
    obtain ⟨m, hm, hlast⟩ := ih hnext hcs
    exact ⟨m, by simp [polls, hk, hm, Nat.add_assoc], hlast⟩

-- ---------------------------------------------------------------------------
-- From the first frame on
-- ---------------------------------------------------------------------------

theorem awaits_render (hs : base.source = some s) (hp : base.poller.Settled)
    (hshown : ¬ base.visibleRange.IsEmpty) (h : ByteSource.Arrives base.visibleRange data (n + 1) s)
    (now : Nat) :
    (base.render now).1.status = .undefined ∧ Awaits base data (n + 1) (base.render now).2 := by
  have hlength : base.length = ByteSource.length s := by simp [View.length, hs]
  cases h with
  | @later _ t _ _ hmissing _ hkept ht =>
    have hfetch : base.poller.fetch s base.visibleRange now =
      (none, base.poller.miss base.visibleRange now, t) := by
      rw [Poller.fetch_eq, if_neg hp.not_undefined, if_neg hshown, hmissing]
      rfl
    constructor
    · simp [render, fetch, hs, hfetch, Scene.compose, scene]
    · rw [base.render_view hs, hfetch]
      exact .waiting (hkept.trans hlength.symm) ht _ _

theorem Awaits.frame (h : Awaits base data 0 w) (hshown : ¬ base.visibleRange.IsEmpty) (now : Nat)
    (hsource : base.source.isSome = true) :
    (w.render now).1 = (base.scene (some data)).compose := by
  simp only [render, h.fetch_arrived hshown now]
  cases h with
  | arrived hlength hs events => simp [scene, grid_asked hlength, hsource]

theorem install_congr (v : View σ) {s t : σ} (hlength : ByteSource.length t = ByteSource.length s) :
    v.install t = { v.install s with source := some t } := by
  unfold install resetWith
  simp only [relayout, grid, View.length, Option.elim_some, hlength]
  split <;> rfl

theorem install_source (v : View σ) (s : σ) : (v.install s).source = some s :=
  congrArg Core.source (v.core_resetWith (some s))

theorem install_poller (v : View σ) (s : σ) : (v.install s).poller = v.poller.reset :=
  congrArg Core.poller (v.core_resetWith (some s))

theorem awaits_install (v : View σ) {s t : σ} (hlength : ByteSource.length t = ByteSource.length s)
    (ht : ByteSource.Holds (v.install s).visibleRange data t) :
    Awaits (v.install s) data 0 (v.install t) := by
  have hlength' : ByteSource.length t = (v.install s).length := by
    simp [View.length, install_source, hlength]
  have hreset : (v.install s).poller.reset = (v.install s).poller := by
    rw [install_poller]
    rfl
  rw [v.install_congr hlength]
  simpa only [hreset] using Awaits.arrived hlength' ht (v.install s).events

end View

theorem Memory.holds {m : Memory} (hchanged : m.changed = false) {r : ByteRange}
    (hr : r.Within m.bytes.size) :
    ByteSource.Holds r (m.bytes.extract r.offset (r.offset + r.length)) m where
  quiet := Prod.ext hchanged (m.repeats.takeChange hchanged)
  request := congrArg (·, m) (decide_eq_true hr)
  read := Memory.read_of_within hr

namespace AnySource

def remote {τ : Type} (bytes : Bytes) (editable : Bool) (k : Nat) : AnySource (Paged Memory ⊕ τ) :=
  .inr (.inr (.inl { inner := { bytes, editable }, latency := some k }))

theorem arrives_remote [ByteSource τ] {bytes : Bytes} (htop : bytes.size < 2 ^ 64) (editable : Bool)
    (k : Nat) {r : ByteRange} (hr : ¬ r.IsEmpty) (hstop : r.offset + r.length ≤ bytes.size) :
    ByteSource.Arrives r (bytes.extract r.offset (r.offset + r.length)) (max k 1)
      (remote bytes editable k : AnySource (Paged Memory ⊕ τ)) :=
  (Paged.arrives_new (m := { bytes, editable }) rfl hr hstop htop k).inl.inr.inr

end AnySource

namespace View

/-- When a remote memory with latency `k` is installed the first frame finds its bytes missing. From
then on the polls alone count: before poll number `max k 1` the bytes stay missing and the next poll
is armed; that one finds them and is the last. The frames are then those of the same bytes in
memory. -/
theorem render_latency [ByteSource τ] (v : View (AnySource (Paged Memory ⊕ τ))) (bytes : Bytes)
    (htop : bytes.size < 2 ^ 64) (editable : Bool) (k : Nat)
    (hshown : ¬ (v.install (.remote bytes editable k)).visibleRange.IsEmpty) (start : Nat)
    {calls : List (Call (AnySource (Paged Memory ⊕ τ)))} (hcalls : ∀ c ∈ calls, c.Passive) :
    let first := (v.install (.remote bytes editable k)).render start
    let last := calls.foldl Call.apply first.2
    first.1.status = .undefined ∧ first.2.polls calls ≤ max k 1 ∧
      (first.2.polls calls < max k 1 → last.poller.status = .undefined ∧
        last.poller.poll.isSome = true) ∧
      (first.2.polls calls = max k 1 → last.poller.status = .defined ∧ last.poller.poll = none ∧
        ∀ now now', (last.render now).1 =
          ((v.install (.inl { bytes, editable })).render now').1) := by
  intro first last
  have hsource := v.install_source (.remote bytes editable k)
  have hsettled : (v.install (.remote bytes editable k)).poller.Settled := by
    rw [install_poller]
    exact Poller.Settled.reset _
  have hstop := (visibleRange_le _ hsource).resolve_left hshown
  obtain ⟨n, hn⟩ : ∃ n, max k 1 = n + 1 := ⟨max k 1 - 1, by omega⟩
  have harrives := AnySource.arrives_remote (τ := τ) htop editable k hshown hstop
  rw [hn] at harrives ⊢
  obtain ⟨hfirst, hawaits⟩ := awaits_render hsource hsettled hshown harrives start
  obtain ⟨m, hm, hlast⟩ : ∃ m, n + 1 = first.2.polls calls + m ∧ Awaits _ _ m last :=
    hawaits.run hcalls hshown
  refine ⟨hfirst, by omega, ?_, ?_⟩
  · intro hpolls
    obtain ⟨m, rfl⟩ : ∃ i, m = i + 1 := ⟨m - 1, by omega⟩
    exact hlast.armed
  · intro hpolls
    obtain rfl : m = 0 := by omega
    refine ⟨hlast.settled.1, hlast.settled.2, fun now now' => ?_⟩
    have hmemory :=
      v.awaits_install (s := .remote bytes editable k) (t := .inl { bytes, editable }) rfl
      (Memory.holds rfl (ByteRange.within_of_le hstop)).inl
    have hsome : (v.install (.remote bytes editable k)).source.isSome = true := by simp [hsource]
    rw [hlast.frame hshown now hsome, hmemory.frame hshown now' hsome]

/-- The second of two polls is the tick that comes when it is due. -/
theorem render_latency_two :
    let v : View (AnySource (Paged Memory ⊕ Scripted)) := {}
    let calls := [Call.tick 500, .render 600, .pollNow 700, .tick 1200, .tick 1700]
    let first := (v.install (.remote #[0x41, 0x42] true 2)).render 0
    let last := calls.foldl Call.apply first.2
    first.2.polls calls = 2 ∧ last.poller.status = .defined ∧
      (last.render 1800).1 =
      ((v.install (.inl { bytes := #[0x41, 0x42], editable := true })).render 0).1 := by
  intro v calls first last
  have hcalls : ∀ c ∈ calls, c.Passive := by simp [calls, Call.Passive]
  have hpolls : first.2.polls calls = 2 := by decide
  obtain ⟨-, -, -, hdefined⟩ :=
    v.render_latency #[0x41, 0x42] (by decide) true 2 (by decide) 0 hcalls
  obtain ⟨hstatus, -, hframe⟩ := hdefined hpolls
  exact ⟨hpolls, hstatus, hframe 1800 0⟩

end View

end HexEditor
