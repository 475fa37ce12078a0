import HexEditor.Proofs.Layout
import HexEditor.Proofs.Stack.Run
import HexEditor.Stack

/-!
# The word under a height

A panel draws its rows one below the other and finds the row under a height by division.
`Shown.valueAt_rows`: on a stack whose words are there and stay what they are, the two agree at
every height. A row reaches from the baseline above it down to its own, so its glyphs belong to it,
and nothing is found above the first row and below the last.

Heights and baselines are 32-bit numbers, and the rows are taken to end at one. On a panel of
billions of rows the two part: `valueAt_around`.
-/

namespace HexEditor

/-- In these states all words of a stack are there, and none changes: asking leads from one of them
to another. -/
structure StackModel.Fixed [StackModel μ] (States : μ → Prop) (start count : Nat)
    (element : Nat → String) :
    Prop where
  there : States m → (Probe.request m r).1 = true
  asked : States m → States (Probe.request m r).2
  start : States m → StackModel.start? m = some start
  count : States m → StackModel.count m = count
  element : States m → StackModel.element m address = element address

namespace StackTable

variable [StackModel μ]

/-- Panels that a host can bring about, over a stack that is in one of the given states at any
time. -/
inductive Shown (States : μ → Prop) : StackTable μ → Prop
  | new (hm : States m) : Shown States { model := m }
  | setAddressWidth (h : Shown States t) (addressWidth : AddressWidth) :
      Shown States { t with addressWidth }
  | setRetryInterval (h : Shown States t) (interval : Nat) :
      Shown States (t.setRetryInterval interval)
  | apply (h : Shown States t) (op : Op) : Shown States (t.apply op)
  | pollNow (h : Shown States t) (now : Nat) : Shown States (t.pollNow now).2
  | outside (h : Shown States t) (hm : States m) : Shown States { t with model := m }

/-- What holds of such a panel if its words are there. -/
structure Steady (States : μ → Prop) (t : StackTable μ) : Prop where
  model : States t.model
  metrics : t.metrics.Valid
  settled : t.poller.Settled

variable {States : μ → Prop} {t : StackTable μ}

def rowAt? (t : StackTable μ) (y : Int) : Option Nat :=
  let line := wrapPixels (y - t.metrics.topPadding + pixels t.metrics.rowHeight)
  if line < 0 then none
  else
    let row := Offset.ofInt (line.tdiv (pixels t.metrics.rowHeight))
    if t.shownRows ≤ row then none else some row

section
variable (hfixed : StackModel.Fixed States start count element)
include hfixed

theorem Steady.render_eq (h : t.Steady States) (now : Nat) :
    ∃ m, States m ∧
      t.render now =
        (⟨.defined, t.addressColumn - t.scrollX,
          (List.range t.shownRows).map ({ t with model := m }.row start true)⟩,
          { t with model := m }) := by
  obtain ⟨m, hm, hrender⟩ :=
  render_there h.settled (hfixed.start h.model) (.inr (hfixed.there h.model)) now
  refine ⟨m, ?_, hrender⟩
  obtain rfl | rfl := hm
  · exact h.model
  · exact hfixed.asked h.model

theorem Steady.valueAt_eq (h : t.Steady States) (y : Int) :
    ∃ m, States m ∧
      t.valueAt y =
        ((t.rowAt? y).map fun i => element
          (Offset.wrapAdd start ((t.firstRow + i) * t.elementSize)), { t with model := m }) := by
  rw [valueAt, rowAt?]
  simp only [hfixed.start h.model]
  split
  · exact ⟨t.model, h.model, rfl⟩
  split
  · exact ⟨t.model, h.model, rfl⟩
  · simp only [hfixed.there h.model, hfixed.element (hfixed.asked h.model)]
    exact ⟨_, hfixed.asked h.model, rfl⟩

theorem Steady.apply (h : t.Steady States) (op : Op) : (t.apply op).Steady States := by
  cases op with
  | setMetrics metrics =>
    obtain hrefused | ⟨hvalid, happly⟩ := apply_setMetrics t metrics
    · rw [hrefused]
      exact h
    · rw [happly]
      exact ⟨h.model, Metrics.validate_ok.mp hvalid, h.settled⟩
  | resize | setFirstRow | setFirstColumn => exact ⟨h.model, h.metrics, h.settled⟩
  | tick now =>
    simp only [StackTable.apply, tick, h.settled.tick_eq]
    exact h
  | render now =>
    obtain ⟨m, hm, hrender⟩ := h.render_eq hfixed now
    rw [StackTable.apply, hrender]
    exact ⟨hm, h.metrics, h.settled⟩
  | valueAt y =>
    obtain ⟨m, hm, hvalue⟩ := h.valueAt_eq hfixed y
    rw [StackTable.apply, hvalue]
    exact ⟨hm, h.metrics, h.settled⟩

theorem Shown.steady (h : t.Shown States) : t.Steady States := by
  induction h with
  | new hm => exact ⟨hm, Metrics.validate_ok.mp rfl, rfl, rfl⟩
  | setAddressWidth _ _ ih => exact ⟨ih.model, ih.metrics, ih.settled⟩
  | setRetryInterval _ _ ih => exact ⟨ih.model, ih.metrics, ih.settled.1, ih.settled.2⟩
  | apply _ op ih => exact ih.apply hfixed op
  | pollNow _ now ih =>
    simp only [StackTable.pollNow, ih.settled.pollNow_eq]
    exact ih
  | outside _ hm ih => exact ⟨hm, ih.metrics, ih.settled⟩

theorem Steady.exists_rows (h : t.Steady States) (now : Nat) :
    ∃ f : Nat → StackRow, (t.render now).1.rows = (List.range t.shownRows).map f ∧
      ∀ i, (f i).baseline = t.baseline i ∧
        (f i).value = element (Offset.wrapAdd start ((t.firstRow + i) * t.elementSize)) := by
  obtain ⟨m, hm, hrender⟩ := h.render_eq hfixed now
  refine ⟨_, by rw [hrender], fun i => ⟨rfl, ?_⟩⟩
  change StackModel.element m ({ t with model := m }.row start true i).address = _
  rw [hfixed.element hm, address_row]
  rfl

theorem Steady.valueAt_congr (h : t.Steady States) (hm : States m) (y : Int) :
    ({ t with model := m }.valueAt y).1 = (t.valueAt y).1 := by
  have hrow : { t with model := m }.rowAt? y = t.rowAt? y := by
    simp only [rowAt?, shownRows, hfixed.count hm, hfixed.count h.model]
    rfl
  have hsame : Steady States { t with model := m } := ⟨hm, h.metrics, h.settled⟩
  obtain ⟨_, -, hvalue⟩ := h.valueAt_eq hfixed y
  obtain ⟨_, -, hvalue'⟩ := hsame.valueAt_eq hfixed y
  rw [hvalue, hvalue', hrow]
  rfl

end

-- ---------------------------------------------------------------------------
-- Heights
-- ---------------------------------------------------------------------------

/-- The rows on screen end at a height that is a 32-bit number. -/
def RowsFit (t : StackTable μ) : Prop :=
  t.metrics.topPadding + t.shownRows * t.metrics.rowHeight < 2 ^ 31

instance (t : StackTable μ) : Decidable t.RowsFit :=
  inferInstanceAs (Decidable (_ < _))

theorem RowsFit.row_lt (hfit : t.RowsFit) (hi : i < t.shownRows) :
    t.metrics.topPadding + (i * t.metrics.rowHeight : Nat) + t.metrics.rowHeight < 2 ^ 31 := by
  have hrows := Nat.mul_le_mul_right t.metrics.rowHeight hi
  rw [Nat.succ_mul] at hrows
  have hproduct := Int.natCast_mul t.shownRows t.metrics.rowHeight
  unfold RowsFit at hfit
  omega

theorem RowsFit.baseline_eq (hfit : t.RowsFit) (hi : i < t.shownRows) :
    t.baseline i = t.metrics.topPadding + (i * t.metrics.rowHeight : Nat) := by
  have hrow := hfit.row_lt hi
  rw [Int.natCast_mul] at hrow ⊢
  exact Metrics.wrapPixels_baseline (by omega)

/-- A height near the end of the 32-bit numbers wraps around to a line above the first row or below
the last one. -/
theorem rowAt?_eq_some_iff (hm : t.metrics.Valid) (hfit : t.RowsFit) (hy : -2 ^ 31 ≤ y)
    (hy' : y < 2 ^ 31) :
    t.rowAt? y = some i ↔
      i < t.shownRows ∧
        t.metrics.topPadding + (i * t.metrics.rowHeight : Nat) - t.metrics.rowHeight ≤ y ∧
        y < t.metrics.topPadding + (i * t.metrics.rowHeight : Nat) := by
  have hheight := hm.rowHeight_pos
  have hsmall := hm.row_le
  have htop := t.metrics.topPadding_ge
  have hrow := fun hi => hfit.row_lt (i := i) hi
  have hwrap := wrapPixels_eq (y - t.metrics.topPadding + t.metrics.rowHeight)
  unfold rowAt?
  rw [hm.pixels_rowHeight]
  simp only
  split
  · simp only [reduceCtorEq, false_iff]
    omega
  · rename_i hlow
    obtain ⟨d, hd⟩ := Int.eq_ofNat_of_zero_le (Int.not_lt.mp hlow)
    have hdiv : d / t.metrics.rowHeight = i ↔
        i * t.metrics.rowHeight ≤ d ∧ d < i * t.metrics.rowHeight + t.metrics.rowHeight := by
      rw [Nat.div_eq_iff hheight]
      omega
    rw [hd, Offset.ofInt_tdiv (by omega)]
    rw [hd] at hwrap
    split
    · simp only [reduceCtorEq, false_iff]
      omega
    · simp only [Option.some.injEq]
      omega

section
variable (hfixed : StackModel.Fixed States start count element) (h : t.Steady States)
  (hfit : t.RowsFit) (now : Nat)
include hfixed h hfit

theorem Steady.rows_spaced :
    ∃ f : Nat → StackRow, (t.render now).1.rows = (List.range t.shownRows).map f ∧
      ∀ i < t.shownRows, (f i).baseline = t.metrics.topPadding + (i * t.metrics.rowHeight : Nat) ∧
        (f i).value = element (Offset.wrapAdd start ((t.firstRow + i) * t.elementSize)) := by
  obtain ⟨f, hrows, hf⟩ := h.exists_rows hfixed now
  refine ⟨f, hrows, fun i hi => ⟨?_, (hf i).2⟩⟩
  rw [(hf i).1, hfit.baseline_eq hi]

theorem Steady.valueAt_eq_some_iff (hy : -2 ^ 31 ≤ y) (hy' : y < 2 ^ 31) (text : String) :
    (t.valueAt y).1 = some text ↔
      ∃ row ∈ (t.render now).1.rows,
        row.baseline - t.metrics.rowHeight ≤ y ∧ y < row.baseline ∧ row.value = text := by
  obtain ⟨f, hrows, hf⟩ := h.rows_spaced hfixed hfit now
  obtain ⟨_, -, hvalue⟩ := h.valueAt_eq hfixed y
  rw [hvalue, Option.map_eq_some_iff, hrows]
  simp only [rowAt?_eq_some_iff h.metrics hfit hy hy', List.mem_map, List.mem_range]
  constructor
  · rintro ⟨i, ⟨hi, hlow, hhigh⟩, rfl⟩
    rw [← (hf i hi).1] at hlow hhigh
    exact ⟨f i, ⟨i, hi, rfl⟩, hlow, hhigh, (hf i hi).2⟩
  · rintro ⟨_, ⟨i, hi, rfl⟩, hlow, hhigh, rfl⟩
    rw [(hf i hi).1] at hlow hhigh
    exact ⟨i, ⟨hi, hlow, hhigh⟩, (hf i hi).2.symm⟩

theorem Steady.first_le {r : StackRow} (hfirst : (t.render now).1.rows.head? = some first)
    (hrow : r ∈ (t.render now).1.rows) :
    first.baseline ≤ r.baseline := by
  obtain ⟨f, hrows, hf⟩ := h.rows_spaced hfixed hfit now
  rw [List.head?_eq_getElem?, hrows, getElem?_rows] at hfirst
  obtain ⟨hpos, rfl⟩ := hfirst
  rw [hrows] at hrow
  obtain ⟨i, hi, rfl⟩ := List.mem_map.mp hrow
  rw [(hf 0 hpos).1, (hf i (List.mem_range.mp hi)).1]
  omega

theorem Steady.le_last {r : StackRow} (hlast : (t.render now).1.rows.getLast? = some last)
    (hrow : r ∈ (t.render now).1.rows) :
    r.baseline ≤ last.baseline := by
  obtain ⟨f, hrows, hf⟩ := h.rows_spaced hfixed hfit now
  rw [List.getLast?_eq_getElem?, hrows, List.length_map, List.length_range, getElem?_rows] at hlast
  obtain ⟨hpos, rfl⟩ := hlast
  rw [hrows] at hrow
  obtain ⟨i, hi, rfl⟩ := List.mem_map.mp hrow
  have hi := List.mem_range.mp hi
  have hheight := Nat.mul_le_mul_right t.metrics.rowHeight (Nat.le_sub_one_of_lt hi)
  rw [(hf _ hpos).1, (hf i hi).1]
  omega

end

/-- What is found under a height is the value of the row that has this height, if there is one. -/
theorem Shown.valueAt_rows (hfixed : StackModel.Fixed States start count element)
    (ht : t.Shown States) (hfit : t.RowsFit) (now : Nat) (y : Int32) :
    (∀ text, (t.valueAt y.toInt).1 = some text ↔
      ∃ row ∈ (t.render now).1.rows, row.baseline - t.metrics.rowHeight ≤ y.toInt ∧
        y.toInt < row.baseline ∧ row.value = text) ∧
    (∀ row ∈ (t.render now).1.rows, row.baseline - t.metrics.charHeight ≤ y.toInt →
      y.toInt < row.baseline → (t.valueAt y.toInt).1 = some row.value) ∧
    (∀ first, (t.render now).1.rows.head? = some first →
      y.toInt < first.baseline - t.metrics.rowHeight → (t.valueAt y.toInt).1 = none) ∧
    (∀ last, (t.render now).1.rows.getLast? = some last → last.baseline ≤ y.toInt →
      (t.valueAt y.toInt).1 = none) ∧
    ((t.render now).2.valueAt y.toInt).1 = (t.valueAt y.toInt).1 := by
  have h := ht.steady hfixed
  have hfound := h.valueAt_eq_some_iff hfixed hfit now y.le_toInt y.toInt_lt
  refine ⟨hfound, ?_, ?_, ?_, ?_⟩
  · intro row hrow hlow hhigh
    -- The glyphs are no higher than their row.
    have hglyph := h.metrics.height_le
    exact (hfound _).mpr ⟨row, hrow, by omega, hhigh, rfl⟩
  · intro first hfirst habove
    refine Option.eq_none_iff_forall_ne_some.mpr fun text htext => ?_
    obtain ⟨row, hrow, hlow, -, -⟩ := (hfound text).mp htext
    have hle := h.first_le hfixed hfit now hfirst hrow
    omega
  · intro last hlast hbelow
    refine Option.eq_none_iff_forall_ne_some.mpr fun text htext => ?_
    obtain ⟨row, hrow, -, hhigh, -⟩ := (hfound text).mp htext
    have hle := h.le_last hfixed hfit now hlast hrow
    omega
  · obtain ⟨m, hm, hrender⟩ := h.render_eq hfixed now
    rw [hrender]
    exact h.valueAt_congr hfixed hm y.toInt

theorem fixed_scripted (start count : Nat) :
    let m : ScriptedStack := { start := some start, count }
    StackModel.Fixed (· = m) start count (StackModel.element m) := by
  constructor
  all_goals intros
  all_goals subst_vars
  all_goals rfl

/-- The second of two rows that are drawn with a gap between their glyphs, and the height just below
it. -/
theorem valueAt_rows_last :
    let m : ScriptedStack := { start := some 0x1000, count := 3 }
    let t := (StackTable.apply { model := m } (.setMetrics ⟨8, 11, 16⟩)).apply (.setFirstRow 1)
    t.RowsFit ∧ ∃ row, (t.render 0).1.rows.getLast? = some row ∧ row.address = 0x1008 ∧
      row.baseline = 32 ∧
      (t.valueAt (16 : Int32).toInt).1 = some row.value ∧
      (t.valueAt (32 : Int32).toInt).1 = none := by
  intro m t
  have hfixed := fixed_scripted 0x1000 3
  have hnew : Shown (· = m) { model := m } := .new rfl
  have ht : t.Shown (· = m) := (hnew.apply _).apply _
  have hplace : (t.render 0).1.rows.getLast?.map (fun row => (row.address, row.baseline)) =
    some (0x1008, 32) := by decide
  obtain ⟨row, hlast, hrow⟩ := Option.map_eq_some_iff.mp hplace
  obtain ⟨haddress, hbaseline⟩ := Prod.mk.inj hrow
  have hfound := ht.valueAt_rows hfixed (by decide) 0
  refine ⟨by decide, row, hlast, haddress, hbaseline,
    ((hfound 16).1 _).mpr ⟨row, List.mem_of_getLast? hlast, ?_, ?_, rfl⟩, ?_⟩
  · rw [hbaseline]
    decide
  · rw [hbaseline]
    decide
  · exact (hfound 32).2.2.2.1 row hlast (by rw [hbaseline]; decide)

/-- A panel of `2 ^ 32 - 17` rows of one pixel. The row `2 ^ 31 + 20` has a baseline far above the
window, and nothing is found in its glyph box. -/
theorem valueAt_around :
    let m : ScriptedStack := { start := some 0, count := 2 ^ 32 }
    let t := (StackTable.apply { model := m } (.setMetrics ⟨1, 1, 1⟩)).apply (.resize (2 ^ 32 - 1))
    StackModel.Fixed (· = m) 0 (2 ^ 32) (StackModel.element m) ∧ t.Shown (· = m) ∧
      ∃ row ∈ (t.render 0).1.rows, row.baseline - t.metrics.charHeight ≤
        (-2147483613 : Int32).toInt ∧
        (-2147483613 : Int32).toInt < row.baseline ∧
        (t.valueAt (-2147483613 : Int32).toInt).1 = none := by
  intro m t
  have hfixed := fixed_scripted 0 (2 ^ 32)
  have hnew : Shown (· = m) { model := m } := .new rfl
  have ht : t.Shown (· = m) := (hnew.apply _).apply _
  obtain ⟨f, hrows, hf⟩ := (ht.steady hfixed).exists_rows hfixed 0
  refine ⟨hfixed, ht, f (2 ^ 31 + 20), ?_, ?_, ?_, by decide⟩
  · rw [hrows]
    exact List.mem_map_of_mem (List.mem_range.mpr (by decide))
  · rw [(hf _).1]
    decide
  · rw [(hf _).1]
    decide

end StackTable

end HexEditor
