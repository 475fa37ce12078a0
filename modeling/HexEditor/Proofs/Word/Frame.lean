import HexEditor.Proofs.Frame.Cells
import HexEditor.Proofs.Word.Hit

/-!
# Frames in machine words

A frame composed with words. Texts and styles are no numbers, so they are those of the scene; but
the index under which the byte of a cell is read is a difference of words.
-/

namespace HexEditor

namespace InWords

-- ---------------------------------------------------------------------------
-- Panes and addresses
-- ---------------------------------------------------------------------------

section
variable (g : Grid)

def paneBounds : Option PaneBounds := do
  return ⟨← (0 - scrollX g).int?, ← (hexPaneLeft g).int?, ← (textPaneLeft g).int?,
    ← (contentWidth g - scrollX g).int?⟩

def labelsFrom (row : Nat) : Nat → Option (List OffsetLabel)
  | 0 => some []
  | count + 1 => do
    let offset ← (firstByte g + .of row * rowBytes g).nat?
    let x ← (10 - scrollX g).int?
    let baseline ← (baseline g row).int?
    let rest ← labelsFrom (row + 1) count
    return if offset < g.length then ⟨g.layout.formatAddress offset, x, baseline⟩ :: rest else []

def labels : Option (List OffsetLabel) :=
  labelsFrom g 0 g.visibleRows

def shownBytes : Option Nat := do
  let first ← (firstByte g).nat?
  let capacity ← (capacity g).nat?
  return min capacity (g.length - first)

end

-- ---------------------------------------------------------------------------
-- Cells
-- ---------------------------------------------------------------------------

section
variable (s : Scene)

def cell (i : Nat) (pane : Pane) (cellX : Nat → PixelWord) (width : PixelWord)
    (text : Option UInt8 → String) (color : Nat → Color) :
    Option Cell := do
  let position ← (firstByte s.grid + .of i).nat?
  let offset ← flip s.grid position
  let index ← (.of offset - firstByte s.grid : OffsetWord).nat?
  let row ← (.of i / rowBytes s.grid).nat?
  let inRow ← (.of i % rowBytes s.grid).nat?
  let x ← (cellX inRow).int?
  let baseline ← (baseline s.grid row).int?
  let bounds ← rect (.of x) (.of baseline - glyphHeight s.grid) width (glyphHeight s.grid + 2)
  return { pane, position, offset, x, baseline, bounds
           text := text (s.data.bind fun data => data[index]?)
           style := s.cellStyle position offset (color inRow) }

def hexCell (i : Nat) : Option Cell :=
  cell s i .hex (hexCellX s.grid) (2 * charWidth s.grid) (·.elim "??" Hex.byte) s.hexColor

def textCell (i : Nat) : Option Cell :=
  cell s i .text (textCellX s.grid) (charWidth s.grid) (·.elim "?" byteText) fun _ =>
    s.palette.textForeground

def cells : Option (List Cell) := do
  let shown ← shownBytes s.grid
  let cells ← (List.range shown).mapM fun i => do return [← hexCell s i, ← textCell s i]
  return cells.flatten

-- ---------------------------------------------------------------------------
-- Frames
-- ---------------------------------------------------------------------------

def sceneHoverRects : Option (List Rect) :=
  match s.hover with
  | some (x, y) => if s.data.isSome ∧ s.enabled then hoverRects s.grid x y else some []
  | none => some []

def caretRect? : Option (Option Rect) := do
  let bounds ← caretBounds s.grid s.selection.caret s.activePane
  return if s.data.isSome ∧ s.showCaret ∧ ¬ bounds.IsEmpty then some bounds else none

def compose : Option Frame := do
  return {
    status := if s.data.isSome then .defined else .undefined
    panes := ← paneBounds s.grid
    offsets := ← labels s.grid
    cells := ← cells s
    hover := ← sceneHoverRects s
    caret := ← caretRect? s }

end

open Word

-- ---------------------------------------------------------------------------
-- Panes and addresses without overflow
-- ---------------------------------------------------------------------------

section
variable {g : Grid} (hg : g.Drawable)
include hg

theorem paneBounds_eq : paneBounds g = some g.paneBounds := by
  have hscroll := scrollX_within hg
  have hleft : (0 - scrollX g).Within (0 - g.scrollX) (-0x800000) 0 :=
    (within_self 0 (by decide)).sub hscroll (by decide)
  have hright := (contentWidth_within hg.valid).sub hscroll (by decide)
  rw [paneBounds, hleft.int?_bind, (hexPaneLeft_within hg).int?_bind,
    (textPaneLeft_within hg).int?_bind, hright.int?_bind, Int.zero_sub]
  rfl

theorem labelsFrom_eq (row count : Nat) (h : row + count ≤ g.visibleRows) :
    labelsFrom g row count = some (g.labelsFrom row count) := by
  induction count generalizing row with
  | zero => rfl
  | succ count ih =>
    have hrow : row < g.visibleRows := by omega
    have hx := padding_within.sub (scrollX_within hg) (by decide)
    have hbaseline := baseline_within hg.valid (hg.baseline_lt row hrow)
    rw [labelsFrom, (rowStart_within hg hrow).nat?_bind, hx.int?_bind, hbaseline.int?_bind,
      ih (row + 1) (by omega)]
    rfl

theorem shownBytes_eq : shownBytes g = some g.shownBytes :=
  ((firstByte_within hg).nat?_bind _).trans ((capacity_within hg).nat?_bind _)

end

-- ---------------------------------------------------------------------------
-- Cells without overflow
-- ---------------------------------------------------------------------------

section
variable {s : Scene} (hg : s.grid.Drawable)
include hg

theorem cell_eq {cellX : Nat → PixelWord} {left : Nat → Int} {width : PixelWord} {w : Int}
    (hi : i < s.grid.shownBytes)
    (hx : ∀ n < s.grid.layout.bytesPerRow, (cellX n).Within (left n) (-0x800000) 0x800000)
    (hwidth : width.Within w 0 512) (pane : Pane) (text : Option UInt8 → String)
    (color : Nat → Color) :
    let position := s.grid.firstByte + i
    let offset := s.grid.flip position
    let inRow := i % s.grid.layout.bytesPerRow
    let baseline := s.grid.baseline (i / s.grid.layout.bytesPerRow)
    cell s i pane cellX width text color =
      some { pane, position, offset, x := left inRow, baseline
             bounds := ⟨left inRow, baseline - s.grid.glyphHeight, w, s.grid.glyphHeight + 2⟩
             text := text (s.byteAt? offset)
             style := s.cellStyle position offset (color inRow) } := by
  intro position offset inRow baseline
  have hrows := Grid.row_lt_of_shown hi
  have hlength := hg.length_lt
  obtain ⟨hcapacity, hposition⟩ := Grid.lt_shownBytes.mp hi
  -- A byte does not leave its row, so the one drawn here is not in front of the first visible one.
  obtain ⟨hfirst, -, hoffset⟩ : s.grid.firstByte ≤ offset ∧
    offset < s.grid.firstByte + s.grid.capacity ∧ offset < s.grid.length :=
    Grid.mem_shownPositions.mp (Grid.flip_mem_shownPositions hg.valid.layout
      (Grid.mem_shownPositions.mpr ⟨Nat.le_add_right _ _, by omega, hposition⟩))
  have hindexWord : (of i : OffsetWord).Within i 0 0x4000000000000000 :=
    within_of (by omega) (by omega) (by decide)
  have hoffsetWord : (of offset : OffsetWord).Within offset 0 0x4000000000000000 :=
    within_of (by omega) (by omega) (by decide)
  have hpositionWord : (firstByte s.grid + of i).Within position 0 0x8000000000003000 :=
    (firstByte_within hg).natAdd hindexWord (by decide)
  have hinRowWord : (of i % rowBytes s.grid).Within inRow 0 4096 :=
    hindexWord.natMod (rowBytes_within hg.valid) (by decide)
  have hleft := hx inRow (Nat.mod_lt _ hg.valid.layout.row_pos)
  have hbaseline :
      (InWords.baseline s.grid (i / s.grid.layout.bytesPerRow)).Within baseline 16 0x7FFFFFFF :=
    baseline_within hg.valid (hg.baseline_lt _ hrows)
  have hheight := glyphHeight_within hg.valid
  have hbounds :
      rect (of (left inRow)) (of baseline - glyphHeight s.grid) width (glyphHeight s.grid + 2) =
      some ⟨left inRow, baseline - s.grid.glyphHeight, w, s.grid.glyphHeight + 2⟩ :=
    rect_eq (within_of hleft.ge hleft.le (by decide))
      ((within_of hbaseline.ge hbaseline.le (by decide)).sub hheight (by decide)) hwidth
      (hheight.add (within_self 2 (by decide)) (by decide))
  rw [cell, hpositionWord.nat?_bind, bind_of_eq_some (flip_eq hg position),
    (hoffsetWord.natSub (firstByte_within hg) hfirst (by decide)).nat?_bind,
      (hindexWord.natDiv (rowBytes_within hg.valid) (by decide)).nat?_bind,
    hinRowWord.nat?_bind, hleft.int?_bind, hbaseline.int?_bind, bind_of_eq_some hbounds]
  rfl

theorem hexCell_eq (hi : i < s.grid.shownBytes) : hexCell s i = some (s.hexCell i) :=
  cell_eq hg hi (fun _ => hexCellX_within hg)
    ((within_self 2 (by decide)).mul (charWidth_within hg.valid) (by decide)) _ _ _

theorem textCell_eq (hi : i < s.grid.shownBytes) : textCell s i = some (s.textCell i) :=
  cell_eq hg hi (fun _ => textCellX_within hg) ((charWidth_within hg.valid).widen (by decide)) _ _ _

omit hg in
theorem mapM_some {f : α → Option β} {g : α → β} {l : List α} (h : ∀ a ∈ l, f a = some (g a)) :
    l.mapM f = some (l.map g) := by
  induction l with
  | nil => rfl
  | cons a l ih =>
    rw [List.mapM_cons, h a List.mem_cons_self, ih fun b hb => h b (List.mem_cons_of_mem a hb)]
    rfl

theorem cells_eq : cells s = some s.cells := by
  have hpairs : ∀ i ∈ List.range s.grid.shownBytes,
      (do return [← hexCell s i, ← textCell s i]) = some [s.hexCell i, s.textCell i] := by
    intro i hi
    rw [hexCell_eq hg (List.mem_range.mp hi), textCell_eq hg (List.mem_range.mp hi)]
    rfl
  rw [cells, bind_of_eq_some (shownBytes_eq hg), mapM_some hpairs]
  rfl

-- ---------------------------------------------------------------------------
-- Frames without overflow
-- ---------------------------------------------------------------------------

theorem sceneHoverRects_eq (hhover : ∀ p ∈ s.hover, p.1.natAbs ≤ 2 ^ 30 ∧ p.2.natAbs ≤ 2 ^ 30) :
    sceneHoverRects s = some s.hoverRects := by
  unfold sceneHoverRects Scene.hoverRects
  cases hs : s.hover with
  | none => rfl
  | some p =>
    obtain ⟨hx, hy⟩ := hhover p hs
    simp only
    split
    · exact hoverRects_eq hg hx hy
    · rfl

theorem caretRect?_eq : caretRect? s = some s.caretRect? := by
  rw [caretRect?, caretBounds_eq hg]
  rfl

theorem compose_eq (hhover : ∀ p ∈ s.hover, p.1.natAbs ≤ 2 ^ 30 ∧ p.2.natAbs ≤ 2 ^ 30) :
    compose s = some s.compose := by
  have hlabels : labels s.grid = some s.grid.labels := labelsFrom_eq hg 0 _ (by omega)
  rw [compose, paneBounds_eq hg, hlabels, cells_eq hg, sceneHoverRects_eq hg hhover,
    caretRect?_eq hg]
  rfl

end

end InWords

end HexEditor
