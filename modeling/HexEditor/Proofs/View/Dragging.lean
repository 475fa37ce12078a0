import HexEditor.Proofs.View.Landing
import HexEditor.Source

/-!
# Selecting with the pointer

From a press on, the pointer may wander over the grid, beyond its edges and over its gaps, and the
wheel may be turned. The anchor stays where the press put it, and a drag over a byte puts the caret
there, whatever came before: `Constant.drag_selects`. The length of a selection is a difference of
signed words that wraps around, so it is the distance of the two nibbles exactly if that is a signed
word; `drag_far` shows what becomes of a longer one.
-/

namespace HexEditor

theorem Offset.distance_eq_iff (a b : Nat) :
    distance a b = b - a ↔ -2 ^ 63 ≤ (b - a : Int) ∧ (b - a : Int) < 2 ^ 63 := by
  constructor
  · intro h
    rw [← h]
    exact ⟨BitVec.le_toInt _, BitVec.toInt_lt⟩
  · rintro ⟨hlow, hhigh⟩
    exact distance_eq (by omega) (by omega)

/-- What is done between a press and a release. -/
def Call.IsDragging : Call σ → Prop
  | drag _ _ | scrollWheel _ => True
  | _ => False

namespace View

variable {v w : View σ}

/-- What dragging keeps of a view that was pressed on the nibble `a`. -/
structure Dragged (v : View σ) (a : Nat) (w : View σ) : Prop where
  core : w.core = v.core
  enabled : w.enabled = v.enabled
  height : w.viewport.height = v.viewport.height
  limit : w.selection.limit = v.selection.limit
  start : w.selection.start = a

theorem Dragged.acceptsInput (h : v.Dragged a w) : w.acceptsInput = v.acceptsInput := by
  have hsource : w.source = v.source := congrArg Core.source h.core
  have hpoller : w.poller = v.poller := congrArg Core.poller h.core
  unfold View.acceptsInput
  rw [h.enabled, hsource, hpoller]

theorem Dragged.scrollWheel (h : v.Dragged a w) (rows : Int) :
    v.Dragged a (w.scrollWheel rows) := by
  unfold View.scrollWheel
  simp only
  split
  all_goals exact ⟨h.core, h.enabled, h.height, h.limit, h.start⟩

variable [ByteSource σ]

theorem Dragged.drag (h : v.Dragged a w) (x y : Int) : v.Dragged a (w.drag x y) := by
  unfold View.drag
  repeat' split
  all_goals exact ⟨h.core, h.enabled, h.height, h.limit, h.start⟩

theorem Dragged.run (h : v.Dragged a w) {path : List (Call σ)} (hpath : ∀ c ∈ path, c.IsDragging) :
    v.Dragged a (path.foldl Call.apply w) := by
  induction path generalizing w with
  | nil => exact h
  | cons c path ih =>
    obtain ⟨hc, hrest⟩ := List.forall_mem_cons.mp hpath
    cases c with
    | drag x y => exact ih (h.drag x y) hrest
    | scrollWheel rows => exact ih (h.scrollWheel rows) hrest
    | _ => cases hc

theorem selection_press (haccepts : v.acceptsInput) (ha : v.grid.nibbleAt? x y = some a)
    (hle : a ≤ v.selection.limit) :
    (v.press x y).selection = v.selection.collapse a := by
  have hset : v.selection.setCaret a = .ok (v.selection.collapse a) := if_neg (Nat.not_lt.mpr hle)
  simp [press, haccepts, ha, hset, emitSelection, emit]

theorem dragged_press (haccepts : v.acceptsInput) (ha : v.grid.nibbleAt? x y = some a)
    (hle : a ≤ v.selection.limit) :
    v.Dragged a (v.press x y) where
  core := (Call.press x y).keeps v core fun _ => rfl
  enabled := (Call.press x y).keeps v enabled fun _ => rfl
  height := (Call.press x y).keeps v (·.viewport.height) fun _ => rfl
  limit := (v.stays_press x y).limit
  start := congrArg Selection.start (selection_press haccepts ha hle)

theorem selection_drag (haccepts : v.acceptsInput) (htop : v.grid.rowTop 0 ≤ y)
    (hbelow : y < pixels v.viewport.height) (hb : v.grid.nibbleAt? x y = some b) :
    (v.drag x y).selection = v.selection.extendTo b := by
  simp [drag, haccepts, Int.not_lt.mpr htop, Int.not_le.mpr hbelow, hb, emitSelection, emit]

theorem lt_of_nibbleAt? (h : v.grid.nibbleAt? x y = some n) : n < 2 * v.length :=
  (Grid.nibbleAt?_parts.mp h).1

theorem source_isSome_of_nibbleAt? (h : v.grid.nibbleAt? x y = some n) : v.source.isSome := by
  have hlt := lt_of_nibbleAt? h
  cases hs : v.source with
  | some => rfl
  | none => simp [length, hs] at hlt

/-- After a press on the nibble `a`, any drags and turns of the wheel, and a drag over the nibble
`b`, the selection is anchored at `a` and `b - a` long, as far as a signed word can say so. -/
theorem Constant.drag_selects (hv : v.Constant) (henabled : v.enabled)
    (hdefined : v.poller.status = .defined) (hheight : v.viewport.height ≤ 2 ^ 31 - 1)
    (ha : v.grid.nibbleAt? x y = some a) {path : List (Call σ)} (hpath : ∀ c ∈ path, c.IsDragging)
    (hrun : path.foldl Call.apply (v.press x y) = w) (htop : w.grid.rowTop 0 ≤ y')
    (hbelow : y' < w.viewport.height) (hb : w.grid.nibbleAt? x' y' = some b) :
    (w.drag x' y').selection.start = a ∧
      (w.drag x' y').selection.length = Offset.distance a b ∧
      ((w.drag x' y').selection.length = b - a ↔
        -2 ^ 63 ≤ (b - a : Int) ∧ (b - a : Int) < 2 ^ 63) ∧
      (v.length ≤ 2 ^ 62 → (w.drag x' y').selection.length = b - a) := by
  have haccepts : v.acceptsInput := by
    simp [acceptsInput, henabled, hdefined, source_isSome_of_nibbleAt? ha]
  have hlt := lt_of_nibbleAt? ha
  have hle : a ≤ v.selection.limit := hv.ends.limit ▸ Nat.le_of_lt hlt
  have hw : v.Dragged a w := hrun ▸ (dragged_press haccepts ha hle).run hpath
  have hlt' : b < 2 * v.length := by
    rw [← length_of_core hw.core]
    exact lt_of_nibbleAt? hb
  have hin : b ≤ w.selection.limit := by
    rw [hw.limit, hv.ends.limit]
    exact Nat.le_of_lt hlt'
  have hpixels : pixels w.viewport.height = w.viewport.height :=
    pixels_of_lt (by rw [hw.height]; omega)
  have hselection : (w.drag x' y').selection = w.selection.reach b := by
    rw [selection_drag (hw.acceptsInput ▸ haccepts) htop (hpixels ▸ hbelow) hb, Selection.extendTo,
      Selection.clamp, Int.toNat_natCast, Nat.min_eq_left hin]
  have hlength : (w.drag x' y').selection.length = Offset.distance a b := by
    rw [hselection, Selection.reach, hw.start]
  refine ⟨?_, hlength, ?_, fun hsmall => ?_⟩
  · rw [hselection]
    exact hw.start
  · rw [hlength]
    exact Offset.distance_eq_iff a b
  · rw [hlength]
    exact Offset.distance_eq (by omega) (by omega)

/-- Twice below the window, once above the rows, a turn of the wheel and over the gap between two
columns: two rows further down, the anchor is where it was. -/
theorem drag_selects_scrolled :
    let v := ((Call.resize 640 76).apply {}).install ({ bytes := Array.replicate 100 0 } : Memory)
    let path := [Call.drag 100 200, .drag 100 90, .drag 100 0, .scrollWheel 1, .drag 200 30]
    let w := path.foldl Call.apply (v.press 120 30)
    v.Constant ∧ v.grid.nibbleAt? 120 30 = some 35 ∧ w.viewport.firstRow = 2 ∧
      w.selection.length = 32 ∧ w.grid.nibbleAt? 340 30 = some 123 ∧
      (w.drag 340 30).selection.start = 35 ∧ (w.drag 340 30).selection.length = 88 := by
  intro v path w
  have hv : v.Constant := .install (.call .new (.resize 640 76)) _
  have ha : v.grid.nibbleAt? 120 30 = some 35 := by decide
  have hb : w.grid.nibbleAt? 340 30 = some 123 := by decide
  have hpath : ∀ c ∈ path, c.IsDragging := by simp [path, Call.IsDragging]
  have hrun : path.foldl Call.apply (v.press 120 30) = w := rfl
  obtain ⟨hstart, -, -, hlength⟩ :=
    hv.drag_selects (by decide) (by decide) (by decide) ha hpath hrun
    (by decide +kernel) (by decide +kernel) hb
  exact ⟨hv, ha, by decide +kernel, by decide +kernel, hb, hstart, hlength (by decide)⟩

/-- From the first nibble to the one at `2 ^ 63`, the length has the wrong sign, and the caret goes
back to the start. -/
theorem drag_far :
    let v : View Scripted := (Call.install { length := 2 ^ 62 + 1024 }).apply {}
    let w := (v.press 100 10).scrollWheel (2 ^ 58)
    v.Constant ∧ v.enabled ∧ v.poller.status = .defined ∧ v.viewport.height ≤ 2 ^ 31 - 1 ∧
      v.grid.nibbleAt? 100 10 = some 0 ∧ w.grid.rowTop 0 ≤ 10 ∧ 10 < w.viewport.height ∧
      w.grid.nibbleAt? 100 10 = some (2 ^ 63) ∧ (w.drag 100 10).selection.start = 0 ∧
      (w.drag 100 10).selection.length = -2 ^ 63 ∧ (w.drag 100 10).caret = 0 := by
  intro v w
  have hv : v.Constant := .install .new _
  exact ⟨hv, by decide, by decide, by decide, by decide, by decide, by decide, by decide, by decide,
    by decide, by decide⟩

end View

end HexEditor
