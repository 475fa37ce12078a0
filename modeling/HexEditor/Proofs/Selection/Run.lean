import HexEditor.Proofs.Selection

/-!
# Runs of a selection

A selection keeps its anchor as a 64-bit word and the way to its caret as a signed one. `Ends` is
what this stands for: anchor, caret and limit as plain integers, each operation a clamp or a
minimum. `run_tracks_ends` says that a selection whose limits are signed words goes through the same
ends, operation by operation, and that it says so when a move changes them.
-/

namespace HexEditor

namespace Selection

inductive Op
  | moveBy (delta : Int) (extend : Bool)
  | setCaret (nibble : Nat)
  | setLength (length : Int)
  | extendTo (nibble : Nat)
  | setLimit (limit : Nat)
deriving DecidableEq, Repr

/-- A limit that an operation sets is a signed word. -/
def Op.Signed : Op → Prop
  | setLimit limit => limit < 2 ^ 63
  | _ => True

instance (op : Op) : Decidable op.Signed := by
  cases op <;> unfold Op.Signed <;> infer_instance

def Op.perform (s : Selection) : Op → Except Error Selection
  | moveBy delta extend => .ok (s.moveBy delta extend)
  | setCaret nibble => s.setCaret nibble
  | setLength length => .ok (s.setLength length)
  | extendTo nibble => .ok (s.extendTo nibble)
  | setLimit limit => .ok (s.setLimit limit)

def Op.apply (s : Selection) (op : Op) : Selection :=
  match op.perform s with
  | .ok changed => changed
  | .error _ => s

def run (s : Selection) (ops : List Op) : Selection :=
  ops.foldl Op.apply s

-- ---------------------------------------------------------------------------
-- Anchor and caret as integers
-- ---------------------------------------------------------------------------

structure Ends where
  anchor : Int
  caret : Int
  limit : Int
deriving DecidableEq, Repr

namespace Ends

def clamp (e : Ends) (nibble : Int) : Int :=
  max 0 (min nibble e.limit)

/-- The ends after an operation, or none if it is refused. -/
def step (e : Ends) : Op → Option Ends
  | .moveBy delta extend =>
    let target := e.clamp (e.caret + delta)
    some { e with anchor := if extend then e.anchor else target, caret := target }
  | .setCaret nibble =>
    if e.limit < nibble then none else some { e with anchor := nibble, caret := nibble }
  | .setLength length => some { e with caret := e.clamp (e.anchor + length) }
  | .extendTo nibble => some { e with caret := min nibble e.limit }
  | .setLimit limit => some ⟨min e.anchor limit, min e.caret limit, limit⟩

def run (e : Ends) (ops : List Op) : Ends :=
  ops.foldl (fun e op => (e.step op).getD e) e

end Ends

def ends (s : Selection) : Ends :=
  ⟨s.start, s.caret, s.limit⟩

/-- The ends lie within a limit that is a signed word, and the way between them is exact. -/
structure Tracked (s : Selection) : Prop extends s.Exact where
  limit_lt : s.limit < 2 ^ 63

variable {s t : Selection} {op : Op} {ops : List Op}

theorem clamp_eq (s : Selection) (nibble : Int) : (s.clamp nibble : Int) = s.ends.clamp nibble := by
  change ((min nibble.toNat s.limit : Nat) : Int) = max 0 (min nibble s.limit)
  omega

theorem ends_reach (hlimit : s.limit < 2 ^ 63) (hstart : s.start ≤ s.limit) (hn : n ≤ s.limit) :
    (s.reach n).ends = { s.ends with caret := n } := by
  rw [ends, caret_reach hlimit hstart hn]
  rfl

theorem ends_collapse (hlimit : s.limit < 2 ^ 63) (hn : n ≤ s.limit) :
    (s.collapse n).ends = { s.ends with anchor := n, caret := n } := by
  rw [ends, s.caret_collapse (show n ≤ Offset.top by unfold Offset.top; omega)]
  rfl

theorem ends_setLimit (s : Selection) (hn : n < 2 ^ 63) :
    (s.setLimit n).ends = ⟨min s.start n, min s.caret n, n⟩ := by
  rw [setLimit, ends_reach hn (Nat.min_le_right _ _) (Nat.min_le_right _ _)]
  simp only [ends, Ends.mk.injEq, and_true]
  omega

-- ---------------------------------------------------------------------------
-- Steps
-- ---------------------------------------------------------------------------

theorem tracked_empty (h : n < 2 ^ 63) : (empty n).Tracked :=
  ⟨⟨Nat.zero_le _, Nat.zero_le _, rfl⟩, h⟩

theorem Tracked.perform (h : s.Tracked) (hop : op.Signed) (ht : op.perform s = .ok t) :
    t.Tracked := by
  cases op with
  | moveBy delta extend =>
    cases ht
    exact ⟨h.toExact.moveBy h.limit_lt delta extend, by rw [limit_moveBy]; exact h.limit_lt⟩
  | setCaret nibble =>
    obtain ⟨hn, rfl⟩ := setCaret_ok ht
    exact ⟨exact_collapse h.limit_lt hn, h.limit_lt⟩
  | setLength length =>
    cases ht
    exact ⟨h.toExact.setLength h.limit_lt length, h.limit_lt⟩
  | extendTo nibble =>
    cases ht
    exact ⟨h.toExact.extendTo h.limit_lt nibble, h.limit_lt⟩
  | setLimit limit =>
    cases ht
    exact ⟨s.exact_setLimit hop, hop⟩

/-- An operation of a selection is a step of its ends, and refused if that is. -/
theorem Tracked.ends_perform (h : s.Tracked) (hop : op.Signed) :
    (op.perform s).toOption.map ends = s.ends.step op := by
  cases op with
  | moveBy delta extend =>
    change some (s.moveBy delta extend).ends = _
    cases extend with
    | false =>
      change some (s.collapse (s.clamp (s.caret + delta))).ends = _
      rw [ends_collapse h.limit_lt (s.clamp_le _), clamp_eq]
      rfl
    | true =>
      change some (s.reach (s.clamp (s.caret + delta))).ends = _
      rw [ends_reach h.limit_lt h.start_le (s.clamp_le _), clamp_eq]
      rfl
  | setCaret nibble =>
    have hrefused : s.ends.limit < nibble ↔ s.limit < nibble := Int.ofNat_lt
    rw [Op.perform, setCaret, Ends.step]
    by_cases hn : s.limit < nibble
    · rw [if_pos hn, if_pos (hrefused.mpr hn)]
      rfl
    · rw [if_neg hn, if_neg (mt hrefused.mp hn)]
      exact congrArg some (ends_collapse h.limit_lt (Nat.le_of_not_lt hn))
  | setLength length =>
    change some (s.reach (s.clamp (s.start + length))).ends = _
    rw [ends_reach h.limit_lt h.start_le (s.clamp_le _), clamp_eq]
    rfl
  | extendTo nibble =>
    have hclamp : s.ends.clamp nibble = min (nibble : Int) s.limit := by
      change max 0 (min (nibble : Int) s.limit) = _
      omega
    change some (s.reach (s.clamp nibble)).ends = _
    rw [ends_reach h.limit_lt h.start_le (s.clamp_le _), clamp_eq, hclamp]
    rfl
  | setLimit limit => exact congrArg some (s.ends_setLimit hop)

theorem Tracked.apply (h : s.Tracked) (hop : op.Signed) :
    (op.apply s).Tracked ∧ (op.apply s).ends = (s.ends.step op).getD s.ends := by
  rw [← h.ends_perform hop]
  cases ht : op.perform s with
  | ok t =>
    simp only [Op.apply, ht]
    exact ⟨h.perform hop ht, rfl⟩
  | error e =>
    simp only [Op.apply, ht]
    exact ⟨h, rfl⟩

theorem Tracked.run (h : s.Tracked) (hops : ∀ op ∈ ops, op.Signed) :
    (s.run ops).Tracked ∧ (s.run ops).ends = s.ends.run ops := by
  induction ops generalizing s with
  | nil => exact ⟨h, rfl⟩
  | cons op ops ih =>
    obtain ⟨hop, hrest⟩ := List.forall_mem_cons.mp hops
    obtain ⟨hnext, hends⟩ := h.apply hop
    obtain ⟨htracked, hrun⟩ := ih hnext hrest
    refine ⟨htracked, hrun.trans ?_⟩
    rw [hends]
    rfl

-- ---------------------------------------------------------------------------
-- Runs
-- ---------------------------------------------------------------------------

theorem Exact.eq_iff (hs : s.Exact) (ht : t.Exact) (hlimit : t.limit = s.limit) :
    t = s ↔ (t.start, t.caret) = (s.start, s.caret) := by
  constructor
  · rintro rfl
    rfl
  · intro hends
    obtain ⟨hstart, hcaret⟩ := Prod.mk.inj hends
    have hs := hs.caret_eq
    have ht := ht.caret_eq
    have hlength : t.length = s.length := by omega
    cases s
    cases t
    cases hstart
    cases hlength
    cases hlimit
    rfl

/-- A selection has the ends that its operations lead to. The length between them is exact and a
signed word, an operation is refused exactly if no step is possible, and a move is seen exactly if
an end has moved. -/
theorem run_tracks_ends {limit : Nat} (hlimit : limit < 2 ^ 63) (hops : ∀ op ∈ ops, op.Signed) :
    let s := (empty limit).run ops
    s.ends = Ends.run ⟨0, 0, limit⟩ ops ∧
    (s.length = s.caret - s.start ∧ -2 ^ 63 < s.length ∧ s.length < 2 ^ 63) ∧
    (s.start ≤ s.limit ∧ s.caret ≤ s.limit) ∧
    (∀ op : Op, op.Signed → (op.perform s).toOption.map ends = s.ends.step op) ∧
    ∀ delta extend, s.moveBy delta extend ≠ s ↔
      ((s.moveBy delta extend).start, (s.moveBy delta extend).caret) ≠ (s.start, s.caret) := by
  intro s
  obtain ⟨h, hends⟩ : s.Tracked ∧ s.ends = (empty limit).ends.run ops :=
    (tracked_empty hlimit).run hops
  have hstart := h.start_le
  have hcaret := h.caret_le
  have hlength := h.caret_eq
  have hlt := h.limit_lt
  refine ⟨hends, by omega, ⟨hstart, hcaret⟩, fun op => h.ends_perform, fun delta extend => ?_⟩
  exact not_congr
    (h.toExact.eq_iff (h.toExact.moveBy hlt delta extend) (s.limit_moveBy delta extend))

/-- From the far end back to the start, with a limit that cuts the anchor off and a caret that is
refused. -/
theorem run_tracks_ends_far :
    let ops := [Op.moveBy (2 ^ 63 - 1) false, .moveBy (-2 ^ 63) true, .setLimit 20, .setCaret 21,
      .extendTo 7]
    let s := (empty (2 ^ 63 - 1)).run ops
    (∀ op ∈ ops, op.Signed) ∧ s.ends = Ends.run ⟨0, 0, (2 ^ 63 - 1 : Nat)⟩ ops ∧
    s.ends = ⟨20, 7, 20⟩ ∧ s.length = s.caret - s.start := by
  intro ops s
  have hops : ∀ op ∈ ops, op.Signed := by decide
  obtain ⟨hends, hlength, -⟩ := run_tracks_ends (show (2 ^ 63 - 1 : Nat) < 2 ^ 63 by decide) hops
  exact ⟨hops, hends, by decide, hlength.1⟩

-- A limit that is no signed word: the caret does not arrive.
example : ((empty (2 ^ 63)).run [.extendTo (2 ^ 63)]).caret = 0 := by decide

end Selection

end HexEditor
