import HexEditor.Proofs.Grid.Place
import HexEditor.Proofs.View.Bounds

/-!
# The window follows the caret

A call that moves the caret, or arranges the grid anew, scrolls so that the caret is on screen. The
one exception is a caret behind the last byte of data that fills the window exactly: its row is the
first one below the window, and such data cannot be scrolled. `Constant.caret_visible_iff` says so
for every call, and `caret_hidden` shows it.
-/

namespace HexEditor

-- ---------------------------------------------------------------------------
-- Rows
-- ---------------------------------------------------------------------------

theorem divUp_mul (hb : 0 < b) (n : Nat) : divUp (n * b) b = n := by
  rw [divUp, Nat.add_sub_assoc hb, Nat.mul_comm, Nat.mul_add_div hb, Nat.div_eq_of_lt (by omega),
    Nat.add_zero]

section
variable {length bytesPerRow : Nat} (hr : 0 < bytesPerRow) (hn : n ≤ 2 * length)
include hr hn

theorem row_le_divUp : n / (2 * bytesPerRow) ≤ divUp length bytesPerRow := by
  apply Nat.div_le_of_le_mul
  have := divUp_mul_ge (a := length) hr
  rw [Nat.mul_assoc, Nat.mul_comm bytesPerRow]
  omega

/-- The row below the last one holds the end of the data, if all rows are full, and nothing else. -/
theorem row_below_iff :
    divUp length bytesPerRow = rows ∧ n / (2 * bytesPerRow) = rows ↔
      length = rows * bytesPerRow ∧ n = 2 * length := by
  constructor
  · rintro ⟨rfl, hrow⟩
    have hrows := divUp_mul_ge (a := length) hr
    have hlow := Nat.div_mul_le_self n (2 * bytesPerRow)
    rw [hrow, Nat.mul_left_comm] at hlow
    omega
  · rintro ⟨rfl, rfl⟩
    refine ⟨divUp_mul hr rows, ?_⟩
    rw [Nat.mul_div_mul_left _ _ (by decide : 0 < 2), Nat.mul_div_cancel _ hr]

end

namespace Viewport

variable {x : Viewport} {g : Grid}

theorem visibleRows_ensureVisible (x : Viewport) (nibble bytesPerRow rows : Nat) (topPadding : Int)
    (rowHeight : Nat) :
    (x.ensureVisible nibble bytesPerRow rows).visibleRows topPadding rowHeight =
    x.visibleRows topPadding rowHeight := by
  rw [ensureVisible_eq]
  rfl

theorem Fits.ensureVisible_iff (h : x.Fits g)
    (hshown : shown = x.visibleRows g.topPadding g.metrics.rowHeight) (hpos : 0 < shown)
    (hrow : n / (2 * g.layout.bytesPerRow) ≤ divUp g.length g.layout.bytesPerRow) :
    ((x.ensureVisible n g.layout.bytesPerRow shown).firstRow ≤ n / (2 * g.layout.bytesPerRow) ∧
      n / (2 * g.layout.bytesPerRow) <
        (x.ensureVisible n g.layout.bytesPerRow shown).firstRow + shown) ↔
    ¬ (divUp g.length g.layout.bytesPerRow = shown ∧ n / (2 * g.layout.bytesPerRow) = shown) := by
  have hmax := verticalMax_eq h.extents
  rw [← hshown] at hmax
  have hfirst := h.firstRow_le
  rw [firstRow_ensureVisible, Nat.max_eq_left hpos]
  unfold marginRows at hmax
  split at hmax
  · -- Scrolling reaches more rows than there are, so the row can be brought in from above and
    -- from below.
    repeat' split
    all_goals omega
  · -- The window is at the top and stays there.
    repeat' split
    all_goals omega

end Viewport

-- ---------------------------------------------------------------------------
-- Calls
-- ---------------------------------------------------------------------------

/-- Calls that move the caret or arrange the grid anew. -/
def Call.Follows [ByteSource σ] (v : View σ) (c : Call σ) : Prop :=
  match c with
  | .moveBy .. | .moveLeft _ | .moveRight _ | .moveUp _ | .moveDown _ | .pageUp _ | .pageDown _ =>
    (c.apply v).selection ≠ v.selection
  | .setCaret nibble => ∃ w, v.setCaret nibble = .ok w
  | .goto address => ∃ w, v.goto address = .ok w
  | .setCurrentAddress address => ∃ w, v.setCurrentAddress address = .ok w
  | .setSelectionLength _ => True
  | .typeChar char => ∃ edit, (v.typeChar char).1 = .ok edit
  | .setLayout _ | .setBytesPerRow _ | .setBytesPerColumn _ | .setColumnSpacing _
  | .setAddressWidth _ | .setFlipBytes _
  | .setBaseAddress _ => (c.apply v).layout ≠ v.layout
  | .setMetrics _ => (c.apply v).metrics ≠ v.metrics
  | .resize width height => ¬ (v.viewport.width = width ∧ v.viewport.height = height)
  | _ => False

namespace View

variable [ByteSource σ] {u v w : View σ}

/-- The window was scrolled to the caret, from a place within its extents. -/
def Followed (w : View σ) : Prop :=
  ∃ x : Viewport, x.Fits w.grid ∧
    w.viewport = x.ensureVisible w.caret w.layout.bytesPerRow w.grid.visibleRows

theorem followed_ensureCaretVisible (h : u.viewport.Fits u.grid) :
    u.ensureCaretVisible.Followed := by
  have hrows : u.ensureCaretVisible.grid.visibleRows = u.grid.visibleRows :=
    Viewport.visibleRows_ensureVisible _ _ _ _ _ _
  refine ⟨u.viewport, h.congr rfl rfl rfl, ?_⟩
  rw [hrows]
  rfl

theorem Followed.emit (h : w.Followed) (e : Event) : (w.emit e).Followed :=
  h

theorem Followed.emitSelection (h : w.Followed) : w.emitSelection.Followed :=
  h

theorem Followed.visible_iff (h : w.Followed) (hr : 0 < w.layout.bytesPerRow)
    (hrows : 0 < w.grid.visibleRows) (hcaret : w.caret ≤ 2 * w.length) :
    w.grid.NibbleVisible w.caret ↔ ¬ (w.length = w.grid.capacity ∧ w.caret = 2 * w.length) := by
  obtain ⟨x, hx, hw⟩ := h
  have hshown : w.grid.visibleRows = x.visibleRows w.grid.topPadding w.grid.metrics.rowHeight := by
    change w.viewport.visibleRows _ _ = _
    rw [hw, Viewport.visibleRows_ensureVisible]
    rfl
  have hscrolled := hx.ensureVisible_iff hshown hrows (row_le_divUp hr hcaret)
  rw [Grid.nibbleVisible_iff hr]
  change w.viewport.firstRow ≤ _ ∧ _ < w.viewport.firstRow + _ ↔ _
  rw [hw]
  exact hscrolled.trans (not_congr (row_below_iff hr hcaret))

theorem followed_layoutChanged (v : View σ) : v.layoutChanged.Followed :=
  ((followed_ensureCaretVisible (u := v.relayout)
    ((v.viewport.fits_recomputeExtents v.grid).congr rfl rfl rfl)).emit _).emit _

theorem followed_of_arranged (hw : w = v ∨ ∃ u : View σ, w = u.layoutChanged) (hne : w ≠ v) :
    w.Followed := by
  obtain ⟨u, rfl⟩ := hw.resolve_left hne
  exact u.followed_layoutChanged

section
variable (h : v.viewport.Fits v.grid)
include h

theorem select_followed (s : Selection) :
    { v with selection := s }.ensureCaretVisible.emitSelection.Followed :=
  (followed_ensureCaretVisible (u := { v with selection := s }) (h.congr rfl rfl rfl)).emitSelection

theorem moveBy_followed (delta : Int) (extend : Bool) :
    v.moveBy delta extend = v ∨ (v.moveBy delta extend).Followed := by
  unfold moveBy
  simp only
  split
  · exact .inr (select_followed h _)
  · exact .inl rfl

theorem setCaret_followed (hw : v.setCaret nibble = .ok w) : w.Followed := by
  obtain ⟨s, -, rfl⟩ := exists_of_map_ok hw
  exact select_followed h s

theorem goto_followed (hw : v.goto address = .ok w) : w.Followed := by
  obtain ⟨nibble, hcaret⟩ | rfl := v.goto_ok hw
  · exact setCaret_followed h hcaret
  · split
    · exact followed_ensureCaretVisible h
    · exact (followed_ensureCaretVisible h).emit _

theorem setCurrentAddress_followed (hw : v.setCurrentAddress address = .ok w) : w.Followed := by
  obtain ⟨nibble, hcaret⟩ := v.setCurrentAddress_ok hw
  exact setCaret_followed h hcaret

theorem typeChar_followed (hsame : (v.typeChar c).2.length = v.length) :
    (∃ reason, v.typeChar c = (.error reason, v)) ∨ (v.typeChar c).2.Followed := by
  unfold typeChar at hsame ⊢
  cases happly : v.applyChar c with
  | error reason => exact .inl ⟨reason, rfl⟩
  | ok outcome =>
    rw [happly] at hsame
    have hwritten : { v with source := some outcome.2 }.viewport.Fits
        { v with source := some outcome.2 }.grid :=
      h.congr rfl rfl hsame
    exact .inr (select_followed hwritten _)

end

end View

theorem Call.Follows.followed [ByteSource σ] {c : Call σ} {v : View σ} (hc : c.Follows v)
    (h : v.viewport.Fits v.grid) (hsame : (c.apply v).length = v.length) :
    (c.apply v).Followed := by
  cases c with
  | moveBy | moveLeft | moveRight | moveUp | moveDown | pageUp | pageDown =>
    exact (View.moveBy_followed h _ _).resolve_left fun hkeep => hc (congrArg View.selection hkeep)
  | setCaret =>
    obtain ⟨w, hw⟩ := hc
    simp only [apply, hw]
    exact View.setCaret_followed h hw
  | goto =>
    obtain ⟨w, hw⟩ := hc
    simp only [apply, hw]
    exact View.goto_followed h hw
  | setCurrentAddress =>
    obtain ⟨w, hw⟩ := hc
    simp only [apply, hw]
    exact View.setCurrentAddress_followed h hw
  | setSelectionLength => exact View.select_followed h _
  | typeChar char =>
    obtain ⟨edit, hedit⟩ := hc
    refine (View.typeChar_followed h hsame).resolve_left ?_
    rintro ⟨reason, hrejected⟩
    rw [hrejected] at hedit
    cases hedit
  | setLayout | setBytesPerRow | setBytesPerColumn | setColumnSpacing | setAddressWidth
  | setFlipBytes | setBaseAddress =>
    exact View.followed_of_arranged (v.setLayout_cases _) fun hkeep =>
      hc (congrArg View.layout hkeep)
  | setMetrics metrics =>
    exact View.followed_of_arranged (v.setMetrics_cases metrics) fun hkeep =>
      hc (congrArg View.metrics hkeep)
  | resize width height =>
    rw [apply, View.resize, if_neg hc]
    exact View.followed_layoutChanged _
  | _ => cases hc

-- ---------------------------------------------------------------------------
-- Runs
-- ---------------------------------------------------------------------------

namespace View

/-- Views of a source that has the length that it was installed with, in any state before that and
after any calls since. -/
inductive Constant [ByteSource σ] : View σ → Prop
  | install {v : View σ} (h : v.Reachable fun _ _ => True) (source : σ) :
    Constant (v.install source)
  | call {v : View σ} (h : Constant v) (c : Call σ) (hsame : (c.apply v).length = v.length) :
      Constant (c.apply v)
  | outside {v : View σ} (h : Constant v) (hs : v.source = some s)
      (hsame : ByteSource.length s' = ByteSource.length s) :
      Constant { v with source := some s' }

variable [ByteSource σ] {v : View σ} {c : Call σ}

theorem Constant.reachable (h : v.Constant) : v.Reachable fun _ _ => True := by
  induction h with
  | install h source => exact h.call (.install source)
  | call _ c _ ih => exact ih.call c
  | outside _ hs _ ih => exact ih.outside hs trivial

theorem Constant.fits (h : v.Constant) : v.viewport.Fits v.grid := by
  induction h with
  | install _ source => exact fits_resetWith _ (some source)
  | call _ c hsame ih => exact Call.fits ih hsame
  | outside _ hs hsame ih => exact ih.congr rfl rfl (length_replaced hs hsame)

/-- While the source keeps its length, the view knows where the data ends. -/
theorem Constant.ends (h : v.Constant) : v.selection.EndsAt (2 * v.length) := by
  induction h with
  | install _ source => exact ends_resetWith _ (some source)
  | call _ c hsame ih => exact Call.ends ih hsame
  | outside _ hs hsame ih => exact length_replaced hs hsame ▸ ih

end View

end HexEditor
