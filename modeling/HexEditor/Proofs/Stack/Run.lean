import HexEditor.Proofs.Poller
import HexEditor.Stack
import Mathlib.Algebra.Group.Int.Defs
import Mathlib.Algebra.Group.Nat.Defs

/-!
# Runs of a stack panel

What a host can do to a stack panel that it shows. The panel asks its model for words, and a buffer
of words is not changed by that.
-/

namespace HexEditor.StackTable

inductive Op
  | setMetrics (metrics : Metrics)
  | resize (height : Nat)
  | setFirstRow (row : Nat)
  | setFirstColumn (column : Nat)
  | tick (now : Nat)
  | render (now : Nat)
  | valueAt (y : Int)
deriving DecidableEq, Repr

def apply [StackModel μ] (t : StackTable μ) : Op → StackTable μ
  | .setMetrics metrics =>
    match t.setMetrics metrics with
    | .ok changed => changed
    | .error _ => t
  | .resize height => { t with height }
  | .setFirstRow row => t.setFirstRow row
  | .setFirstColumn firstColumn => { t with firstColumn }
  | .tick now => (t.tick now).2
  | .render now => (t.render now).2
  | .valueAt y => (t.valueAt y).2

theorem apply_setMetrics [StackModel μ] (t : StackTable μ) (m : Metrics) :
    t.apply (.setMetrics m) = t ∨ m.validate = .ok () ∧
      t.apply (.setMetrics m) = { t with metrics := m } := by
  cases hm : m.validate with
  | error e =>
    left
    simp only [apply, setMetrics, hm]
    rfl
  | ok =>
    refine .inr ⟨rfl, ?_⟩
    simp only [apply, setMetrics, hm]
    rfl

theorem words_apply (t : StackTable WordStack) (op : Op) :
    (t.apply op).model = t.model ∧ (t.apply op).addressWidth = t.addressWidth := by
  have hasked : ∀ (s : WordStack) (region : ByteRange), s = t.model →
    (Probe.request s region).2 = t.model :=
    fun _ _ h => h
  cases op with
  | setMetrics metrics =>
    obtain hrefused | ⟨-, happly⟩ := apply_setMetrics t metrics
    · rw [hrefused]
      exact ⟨rfl, rfl⟩
    · rw [happly]
      exact ⟨rfl, rfl⟩
  | resize | setFirstRow | setFirstColumn => exact ⟨rfl, rfl⟩
  | tick now => exact ⟨Poller.tick_probe hasked t.poller now rfl, rfl⟩
  | render now =>
    simp only [apply, render]
    split
    next => exact ⟨rfl, rfl⟩
    next start _ => exact ⟨Poller.check_probe hasked t.poller (t.region start) now rfl, rfl⟩
  | valueAt y =>
    simp only [apply, valueAt]
    repeat' split
    all_goals exact ⟨rfl, rfl⟩

-- ---------------------------------------------------------------------------
-- Rows
-- ---------------------------------------------------------------------------

theorem getElem?_rows {f : Nat → StackRow} {r : StackRow} :
    ((List.range n).map f)[i]? = some r ↔ i < n ∧ f i = r := by
  rw [List.getElem?_eq_some_iff]
  simp

theorem address_row [StackModel μ] (t : StackTable μ) (start : Nat) (defined : Bool) (i : Nat) :
    (t.row start defined i).address = Offset.wrapAdd start ((t.firstRow + i) * t.elementSize) := by
  change Offset.wrapAdd (Offset.wrapAdd start (t.firstRow * t.elementSize)) (i * t.elementSize) = _
  rw [Offset.wrapAdd, Offset.wrapAdd, Nat.mod_add_mod, Nat.add_assoc, ← Nat.add_mul]
  rfl

theorem render_there [StackModel μ] {t : StackTable μ} (hp : t.poller.Settled)
    (hstart : StackModel.start? t.model = some start)
    (hthere : (t.region start).IsEmpty ∨ (Probe.request t.model (t.region start)).1 = true)
    (now : Nat) :
    ∃ m, (m = t.model ∨ m = (Probe.request t.model (t.region start)).2) ∧
      t.render now =
        (⟨.defined, t.addressColumn - t.scrollX,
          (List.range t.shownRows).map ({ t with model := m }.row start true)⟩,
          { t with model := m }) := by
  obtain ⟨m, hm, hcheck⟩ := hp.check_eq t.model hthere now
  refine ⟨m, hm, ?_⟩
  rw [render, hstart]
  simp only [hcheck, hp.1]

end HexEditor.StackTable
