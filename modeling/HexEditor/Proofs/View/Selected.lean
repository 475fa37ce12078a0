import HexEditor.Proofs.Highlight.Table
import HexEditor.Proofs.Source.Memory
import HexEditor.Proofs.View.Resident
import HexEditor.Window.Menu

/-!
# What is drawn as selected and what is copied

A selection is a range of positions on the grid. The cells at these positions are drawn as selected,
but what is copied, and what the menu colors, are the bytes whose offsets are in that range. Where
columns are drawn in reverse the two are mirror images of each other: `selectedOffsets_iff` says
when they are the same bytes, and `copied_reversed` shows that they need not be.
-/

namespace HexEditor

def ByteRange.offsets (r : ByteRange) : List Nat :=
  List.range' r.offset r.length

/-- Offsets of the bytes that are drawn as selected, cell by cell. -/
def Frame.selectedOffsets (f : Frame) : List Nat :=
  (f.cells.filter (·.style.selected)).map (·.offset)

theorem ByteRange.mem_offsets {r : ByteRange} :
    o ∈ r.offsets ↔ r.offset ≤ o ∧ o < r.offset + r.length :=
  List.mem_range'_1

theorem ByteRange.extract_offsets {r : ByteRange} {bytes : Bytes}
    (h : r.offset + r.length ≤ bytes.size) :
    (bytes.extract r.offset (r.offset + r.length)).toList.map some = r.offsets.map (bytes[·]?) := by
  apply List.ext_getElem
  · simp [offsets]
    omega
  · intro i _ hi
    simp only [offsets, List.length_map, List.length_range'] at hi
    have hlt : r.offset + i < bytes.size := by omega
    simp [offsets, hlt]

theorem Selection.selects_iff {s : Selection} (h : s.bytes? = some r) :
    s.Selects p ↔ p ∈ r.offsets := by
  unfold bytes? at h
  split at h
  · cases h
  rename_i hne
  cases h
  have hspan : s.span.1 ≤ s.span.2 := by
    unfold span
    omega
  simp only [Selects, hne, not_false_eq_true, true_and, ByteRange.mem_offsets, firstByte, lastByte,
    divUp]
  omega

-- ---------------------------------------------------------------------------
-- Ranges and their mirror images
-- ---------------------------------------------------------------------------

namespace Grid

variable {g : Grid}

/-- A range of whole columns, or one with as many bytes of its column before it as behind it. -/
def Symmetric (g : Grid) (r : ByteRange) : Prop :=
  let last := r.offset + r.length - 1
  g.columnStart r.offset = r.offset ∧ g.columnStart last + g.columnBytes last =
    r.offset + r.length ∨
    g.columnStart last = g.columnStart r.offset ∧
      r.offset - g.columnStart r.offset =
        g.columnStart last + g.columnBytes last - (r.offset + r.length)

instance (g : Grid) (r : ByteRange) : Decidable (g.Symmetric r) :=
  inferInstanceAs (Decidable (_ ∨ _))

section
variable {r : ByteRange} (hl : g.layout.Valid) (hf : g.layout.flipBytes = true)
  (hr : r.offset + r.length ≤ g.length)
include hl hf hr

theorem Symmetric.flip_mem (h : g.Symmetric r) (hp : p ∈ r.offsets) : g.flip p ∈ r.offsets := by
  rw [ByteRange.mem_offsets] at hp ⊢
  have hmirror := flip_add hl hf (p := p) (by omega)
  have hcolumn := mem_column hl (p := p) (by omega)
  have hfirst := mem_column hl (p := r.offset) (by omega)
  have hlast := mem_column hl (p := r.offset + r.length - 1) (by omega)
  rcases h with ⟨hstart, hstop⟩ | ⟨hsame, hmiddle⟩
  · -- An end of the range within the column of `p` would be an end of that column.
    have hlow : r.offset ≤ g.columnStart p := by
      refine Nat.le_of_not_lt fun hlt => ?_
      have := column_eq (g := g) (p := p) (q := r.offset) (by omega) (by omega)
      omega
    have hhigh : g.columnStart p + g.columnBytes p ≤ r.offset + r.length := by
      refine Nat.le_of_not_lt fun hlt => ?_
      have := column_eq (g := g) (p := p) (q := r.offset + r.length - 1) (by omega) (by omega)
      omega
    omega
  · have hboth :=
      column_eq (g := g) (p := r.offset + r.length - 1) (q := r.offset) (by omega) (by omega)
    have hin := column_eq (g := g) (p := r.offset) (q := p) (by omega) (by omega)
    omega

/-- A range that has the mirror image of each of its bytes ends in the middle of a column only if it
begins in it as well. -/
theorem symmetric_of_flip_mem (hne : ¬ r.IsEmpty) (h : ∀ p ∈ r.offsets, g.flip p ∈ r.offsets) :
    g.Symmetric r := by
  unfold ByteRange.IsEmpty at hne
  simp only [ByteRange.mem_offsets] at h
  have hfirst := mem_column hl (p := r.offset) (by omega)
  have hlast := mem_column hl (p := r.offset + r.length - 1) (by omega)
  by_cases hsame : r.offset + r.length - 1 < g.columnStart r.offset + g.columnBytes r.offset
  · have hcolumn :=
      column_eq (g := g) (p := r.offset) (q := r.offset + r.length - 1) (by omega) hsame
    have hmirror := flip_add hl hf (p := r.offset) (by omega)
    have hmirror' := flip_add hl hf (p := r.offset + r.length - 1) (by omega)
    have hin := h r.offset (by omega)
    have hin' := h (r.offset + r.length - 1) (by omega)
    exact .inr ⟨hcolumn.2.1, by omega⟩
  · -- The last byte of the first column and the first byte of the last one are in the range, and
    -- so are their mirror images.
    have hend :=
      column_eq (g := g) (p := r.offset) (q := g.columnStart r.offset + g.columnBytes r.offset - 1)
      (by omega) (by omega)
    have hmirror :=
      flip_add hl hf (p := g.columnStart r.offset + g.columnBytes r.offset - 1) (by omega)
    have hin := h (g.columnStart r.offset + g.columnBytes r.offset - 1) (by omega)
    have hlow : r.offset ≤ g.columnStart (r.offset + r.length - 1) := by
      refine Nat.le_of_not_lt fun hlt => ?_
      have := column_eq (g := g) (p := r.offset + r.length - 1) (q := r.offset) (by omega)
        (by omega)
      omega
    have hbegin := column_eq (g := g) (p := r.offset + r.length - 1)
      (q := g.columnStart (r.offset + r.length - 1)) (by omega) (by omega)
    have hmirror' := flip_add hl hf (p := g.columnStart (r.offset + r.length - 1)) (by omega)
    have hin' := h (g.columnStart (r.offset + r.length - 1)) (by omega)
    exact .inl ⟨by omega, by omega⟩

end

/-- Mirror images of a range make up the range exactly if nothing is mirrored or the range is
symmetric. -/
theorem flip_mem_offsets_iff (hl : g.layout.Valid) (hne : ¬ r.IsEmpty)
    (hr : r.offset + r.length ≤ g.length) :
    (∀ o, g.flip o ∈ r.offsets ↔ o ∈ r.offsets) ↔ g.layout.flipBytes = false ∨ g.Symmetric r := by
  cases hf : g.layout.flipBytes with
  | false =>
    have hself (o : Nat) : g.flip o = o := flip_eq_self (by simp [hf])
    simp [hself]
  | true =>
    simp only [Bool.true_eq_false, false_or]
    constructor
    · intro h
      exact symmetric_of_flip_mem hl hf hr hne fun p => (h p).mpr
    · intro h o
      refine ⟨fun ho => ?_, h.flip_mem hl hf hr⟩
      have hback := h.flip_mem hl hf hr ho
      rwa [flip_flip hl] at hback

end Grid

-- ---------------------------------------------------------------------------
-- Cells
-- ---------------------------------------------------------------------------

namespace Scene

variable {s : Scene}

theorem style_selected (s : Scene) (data : Bytes) (position offset : Nat) (fallback : Color) :
    (s.style data position offset fallback).selected = true ↔ s.selection.Selects position := by
  unfold style
  split
  · simp [*]
  · repeat' split
    all_goals simp [*]

variable {bytes : Bytes} (hl : s.grid.layout.Valid) (hlength : s.grid.length = bytes.size)
  (hdata : s.data = some (bytes.extract s.grid.firstByte (s.grid.firstByte + s.grid.shownBytes)))
  (henabled : s.enabled = true)
include hl hlength hdata henabled

theorem cell_selected (hc : c ∈ s.cells) :
    c.style.selected = true ↔ s.selection.Selects c.position := by
  obtain ⟨i, hi, hcell⟩ := mem_cells.mp hc
  obtain ⟨b, -, hshown⟩ := byteAt?_flip hl hlength hdata
    (p := s.grid.firstByte + i) (by rw [Grid.shownPositions, List.mem_range'_1]; omega)
  rcases hcell with rfl | rfl
  · simp [hexCell, cellStyle, hshown, hdata, henabled, style_selected]
  · simp [textCell, cellStyle, hshown, hdata, henabled, style_selected]

/-- A byte is drawn as selected exactly if it is drawn at a position of the selection. -/
theorem mem_selectedOffsets (hr : s.selection.bytes? = some r)
    (hshown : ∀ p ∈ r.offsets, p ∈ s.grid.shownPositions) :
    o ∈ s.compose.selectedOffsets ↔ s.grid.flip o ∈ r.offsets := by
  simp only [Frame.selectedOffsets, List.mem_map, List.mem_filter]
  constructor
  · rintro ⟨c, ⟨hc, hselected⟩, rfl⟩
    have hposition :=
      (Selection.selects_iff hr).mp ((cell_selected hl hlength hdata henabled hc).mp hselected)
    obtain ⟨i, -, rfl | rfl⟩ := mem_cells.mp hc
    · simpa only [hexCell, Grid.flip_flip hl] using hposition
    · simpa only [textCell, Grid.flip_flip hl] using hposition
  · intro ho
    obtain ⟨hlow, hhigh⟩ := List.mem_range'_1.mp (hshown _ ho)
    have hcell : s.hexCell (s.grid.flip o - s.grid.firstByte) ∈ s.cells :=
      mem_cells.mpr ⟨_, by omega, .inl rfl⟩
    have hposition : (s.hexCell (s.grid.flip o - s.grid.firstByte)).position = s.grid.flip o := by
      simp only [hexCell]
      omega
    refine ⟨_, ⟨hcell, ?_⟩, ?_⟩
    · rw [cell_selected hl hlength hdata henabled hcell, hposition]
      exact (Selection.selects_iff hr).mpr ho
    · simp only [hexCell, Nat.add_sub_cancel' hlow, Grid.flip_flip hl]

end Scene

-- ---------------------------------------------------------------------------
-- Coloring the selection
-- ---------------------------------------------------------------------------

/-- A row of a table with the background of highlighted selections at some offsets. -/
def ColorTable.mark (offsets : List Nat) (row : Nat → Option (Option Color × Option Color)) :
    Nat → Option (Option Color × Option Color) :=
  fun o => if o ∈ offsets then some (none, some highlightColor) else row o

theorem Session.layers_highlightSelection {session : Session}
    (hr : session.view.selection.bytes? = some r) :
    session.highlightSelection.view.layers =
      session.view.layers.change (.add 0 ⟨r.offset, r.length, none, some highlightColor⟩) := by
  rw [highlightSelection, hr]
  simp only [View.colorize, Layers.change]
  cases session.view.layers.add 0 ⟨r.offset, r.length, none, some highlightColor⟩ with
  | ok layers => rfl
  | error => rfl

theorem ColorTable.paintSpan_eq_mark {r : ByteRange} (h : r.offset + r.length < 2 ^ 64) :
    paintSpan r.offset r.length (some (none, some highlightColor)) = mark r.offsets := by
  funext row o
  have hstop : min (r.offset + r.length) (2 ^ 64 - 1) = r.offset + r.length :=
    Nat.min_eq_left (by omega)
  simp only [paintSpan, mark, ByteRange.mem_offsets, hstop]

theorem Session.shows_highlightSelection {session : Session}
    (hr : session.view.selection.bytes? = some r) (hstop : r.offset + r.length < 2 ^ 64)
    (h : session.view.layers.Shows t) :
    session.highlightSelection.view.layers.Shows (t.modify 0 (ColorTable.mark r.offsets)) := by
  rw [layers_highlightSelection hr, ← ColorTable.paintSpan_eq_mark hstop]
  exact h.change _

namespace View

variable [ByteSource τ]

/-- The bytes drawn as selected are the mirror images of those that are copied and that the menu
colors. They are the same bytes exactly if columns are not drawn in reverse, or the selection is
symmetric. -/
theorem selectedOffsets_iff {v : View (AnySource τ)} (hv : v.Reachable AnySource.Drifts)
    (hs : v.source = some (.inl m)) (henabled : v.enabled = true) (hr : v.selection.bytes? = some r)
    (hne : ¬ r.IsEmpty)
    (hshown : v.grid.firstByte ≤ r.offset ∧
      r.offset + r.length ≤ v.grid.firstByte + v.grid.shownBytes)
    (now : Nat) :
    (v.render now).1.status = .defined ∧
    (∀ o, o ∈ (v.render now).1.selectedOffsets ↔ v.grid.flip o ∈ r.offsets) ∧
    ((∀ o, o ∈ (v.render now).1.selectedOffsets ↔ o ∈ r.offsets) ↔
      v.layout.flipBytes = false ∨ v.grid.Symmetric r) ∧
    (∃ data, v.selectedData = .ok data ∧ data.toList.map some = r.offsets.map (m.bytes[·]?)) ∧
    (m.bytes.size < 2 ^ 64 → ∀ (session : Session) (t : ColorTable),
      session.view.selection = v.selection →
      session.view.layers.Shows t →
        session.highlightSelection.view.layers.Shows (t.modify 0 (ColorTable.mark r.offsets))) := by
  have hl := hv.valid.layout
  have hlength : v.grid.length = m.bytes.size := by
    change v.length = _
    rw [View.length, hs]
    rfl
  have hstop : r.offset + r.length ≤ m.bytes.size := by
    have := hshown.2
    unfold ByteRange.IsEmpty at hne
    rw [Grid.shownBytes, hlength] at this
    omega
  have hpositions : ∀ p ∈ r.offsets, p ∈ v.grid.shownPositions := by
    intro p hp
    rw [ByteRange.mem_offsets] at hp
    rw [Grid.shownPositions, List.mem_range'_1]
    omega
  have hdrawn (o : Nat) : o ∈ (v.render now).1.selectedOffsets ↔ v.grid.flip o ∈ r.offsets := by
    rw [render_eq hv hs rfl (AnySource.addressable_inl m)]
    exact Scene.mem_selectedOffsets hl hlength rfl henabled hr hpositions
  refine ⟨?_, hdrawn, ?_, ?_, ?_⟩
  · rw [render_eq hv hs rfl (AnySource.addressable_inl m)]
    rfl
  · simp only [hdrawn]
    exact Grid.flip_mem_offsets_iff hl hne (hlength ▸ hstop)
  · refine ⟨_, ?_, ByteRange.extract_offsets hstop⟩
    rw [selectedData, hr, hs]
    exact Memory.read_of_within (ByteRange.within_of_le hstop)
  · intro hsize session t hselection
    exact Session.shows_highlightSelection (hselection ▸ hr) (by omega)

/-- The middle of a column, selected from its end. -/
theorem selectedOffsets_middle :
    let m : Memory := { bytes := #[0x0A, 0x0B, 0x0C, 0x0D] }
    let flipped : View (AnySource Scripted) :=
      (Call.setFlipBytes true).apply
      ((Call.setBytesPerColumn 4).apply ((Call.install (.inl m)).apply {}))
    let v := (Call.setSelectionLength (-3)).apply ((Call.setCaret 5).apply flipped)
    v.Reachable AnySource.Drifts ∧ v.selection.bytes? = some ⟨1, 2⟩ ∧ v.grid.flip 1 = 2 ∧
      ∀ o, o ∈ (v.render 0).1.selectedOffsets ↔ o ∈ (⟨1, 2⟩ : ByteRange).offsets := by
  intro m flipped v
  have hv : v.Reachable AnySource.Drifts := ((((Reachable.new.call _).call _).call _).call _).call _
  have hr : v.selection.bytes? = some ⟨1, 2⟩ := by decide
  have h := selectedOffsets_iff hv (m := m) rfl rfl hr (by decide) (by decide) 0
  exact ⟨hv, hr, by decide, h.2.2.1.mpr (.inr (by decide))⟩

/-- One byte of a reversed column of two: the other one is drawn as selected. -/
theorem copied_reversed :
    let flipped : View (AnySource Scripted) :=
      (Call.setFlipBytes true).apply ((Call.install (.inl { bytes := #[1, 2] })).apply {})
    let v := (Call.setSelectionLength 2).apply flipped
    v.Reachable AnySource.Drifts ∧ v.enabled = true ∧ (v.render 0).1.status = .defined ∧
      v.selection.bytes? = some ⟨0, 1⟩ ∧ (v.render 0).1.selectedOffsets = [1, 1] ∧
        v.selectedData = .ok #[1] :=
  ⟨((Reachable.new.call _).call _).call _, rfl, by decide, by decide, by decide, rfl⟩

end View

end HexEditor
