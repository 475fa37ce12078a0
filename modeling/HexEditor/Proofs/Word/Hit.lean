import HexEditor.Proofs.Grid.Hit
import HexEditor.Proofs.Word.Grid

/-!
# Rectangles and points in machine words

Where a nibble is drawn and what lies under a point, computed with words. The outer `Option` of a
result is none if a number on the way to it has overflowed; the inner one is the answer.
-/

namespace HexEditor

namespace InWords

variable (g : Grid)

-- ---------------------------------------------------------------------------
-- Rectangles
-- ---------------------------------------------------------------------------

def rect (x y width height : PixelWord) : Option Rect := do
  return ⟨← x.int?, ← y.int?, ← width.int?, ← height.int?⟩

def nibbleVisible (nibble : Nat) : Option Bool := do
  let first ← (2 * firstByte g).nat?
  let stop ← (2 * firstByte g + 2 * capacity g).nat?
  return decide (first ≤ nibble ∧ nibble < stop)

/-- The place of something that belongs to a nibble. -/
def ifVisible (nibble : Nat) (place : Option Rect) : Option Rect := do
  if ← nibbleVisible g nibble then place else return .nowhere

def nibbleBounds (nibble : Nat) : Option Rect :=
  let rowNibbles := 2 * rowBytes g
  let columnNibbles := 2 * columnBytes g
  let shown := .of nibble - 2 * firstByte g
  let inRow := shown % rowNibbles
  ifVisible g nibble do
    let row ← (shown / rowNibbles).nat?
    rect
      (hexPaneLeft g + 10 + (inRow / columnNibbles).cast * columnSize g +
        (inRow % columnNibbles).cast * charWidth g)
      (rowTop g row) (charWidth g) (glyphHeight g)

def textBounds (nibble : Nat) : Option Rect :=
  let shown := (.of nibble - 2 * firstByte g) / 2
  ifVisible g nibble do
    let row ← (shown / rowBytes g).nat?
    let inRow ← (shown % rowBytes g).nat?
    rect (textCellX g inRow) (rowTop g row) (charWidth g) (glyphHeight g)

def caretBounds (nibble : Nat) (pane : Pane) : Option Rect := do
  let cell ← (if pane = .text then textBounds g nibble else nibbleBounds g nibble)
  if cell.IsEmpty then return .nowhere
  else rect (.of cell.x - 1) (.of cell.y - 1) 2 (.of cell.height + 2)

-- ---------------------------------------------------------------------------
-- Positions and offsets
-- ---------------------------------------------------------------------------

/-- The mirror image of a position of the data, in words from zero up to a bound. -/
def flipBelow (bound : Nat) (g : Grid) (position : Nat) : Word 0 bound :=
  let place : Word 0 bound := .of position
  let rowStart := place - place % .of g.layout.bytesPerRow
  let inRow := place - rowStart
  let columnStart := rowStart + inRow - inRow % .of g.layout.bytesPerColumn
  let bytes :=
    min (min (.of g.layout.bytesPerColumn) (rowStart + .of g.layout.bytesPerRow - columnStart))
    (.of g.length - columnStart)
  columnStart + bytes - 1 - (place - columnStart)

def flip (position : Nat) : Option Nat :=
  if g.layout.flipBytes ∧ position < g.length then (flipBelow (2 ^ 64) g position).nat?
  else some position

-- ---------------------------------------------------------------------------
-- Points
-- ---------------------------------------------------------------------------

def paneAt? (x y : Int) : Option (Option Pane) := do
  let top ← (rowTop g 0).int?
  let hexLeft ← (hexPaneLeft g).int?
  let textLeft ← (textPaneLeft g).int?
  return if y < top then none
    else if x < hexLeft then some .offsets
    else if x < textLeft then some .hex
    else some .text

def rowAt? (y : Int) : Option (Option Nat) := do
  let top ← (rowTop g 0).int?
  if y < top then return none
  else
    let row : OffsetWord := ((.of y - rowTop g 0) / rowHeight g).cast
    let row ← row.nat?
    return if row < g.visibleRows then some row else none

def hexNibbleAt? (dx : PixelWord) : Option (Option Nat) := do
  let column : OffsetWord := (dx / columnSize g).cast
  let digit : OffsetWord := (dx % columnSize g / charWidth g).cast
  let columnNibbles ← (2 * columnBytes g).nat?
  let byte ← (column * columnBytes g + digit / 2).nat?
  let nibble ← (2 * (column * columnBytes g) + digit).nat?
  let digit ← digit.nat?
  return if columnNibbles ≤ digit then none
    else if g.layout.bytesPerRow ≤ byte then none
    else some nibble

def textNibbleAt? (dx : PixelWord) : Option (Option Nat) := do
  let distance ← dx.int?
  if distance < 0 then return none
  else
    let character : OffsetWord := (dx / charWidth g).cast
    let nibble ← (2 * character).nat?
    let character ← character.nat?
    return if g.layout.bytesPerRow ≤ character then none else some nibble

def rowNibbleAt? (x : Int) : Option (Option Nat) := do
  let hexLeft ← (hexPaneLeft g + 10).int?
  let textLeft ← (textPaneLeft g).int?
  if x < hexLeft then return none
  else if x < textLeft then hexNibbleAt? g (.of x - (hexPaneLeft g + 10))
  else textNibbleAt? g (.of x - (textPaneLeft g + 10))

def nibbleInRow? (row inRow : Nat) : Option (Option Nat) := do
  let nibble ← (2 * (firstByte g + .of row * rowBytes g) + .of inRow).nat?
  let stop ← (2 * .of g.length : OffsetWord).nat?
  return if nibble < stop then some nibble else none

def andThen (found : Option (Option α)) (next : α → Option (Option β)) : Option (Option β) := do
  let some x ← found | return none
  next x

def nibbleAt? (x y : Int) : Option (Option Nat) :=
  andThen (rowAt? g y) fun row => andThen (rowNibbleAt? g x) fun inRow => nibbleInRow? g row inRow

def highlighted (nibble : Nat) (pane : Option Pane) : Option (List Rect) := do
  let next ← (.of nibble + 1 : OffsetWord).nat?
  let digit ← nibbleBounds g nibble
  let nextDigit ← nibbleBounds g next
  let character ← textBounds g nibble
  let digits := if pane = some .text then [digit, nextDigit] else [digit]
  return (digits ++ [character]).filter (fun r => ¬ r.IsEmpty)

def hoverRects (x y : Int) : Option (List Rect) := do
  let pane ← paneAt? g x y
  let nibble ← nibbleAt? g x y
  nibble.elim (some []) (highlighted g · pane)

open Word

variable {g}

-- ---------------------------------------------------------------------------
-- Rectangles without overflow
-- ---------------------------------------------------------------------------

theorem rect_eq {a b c d : PixelWord} {x y w h : Int} (hx : a.Within x l u) (hy : b.Within y l' u')
    (hwidth : c.Within w l₁ u₁) (hheight : d.Within h l₂ u₂) :
    rect a b c d = some ⟨x, y, w, h⟩ := by
  simp only [rect, hx.int?, hy.int?, hwidth.int?, hheight.int?]
  rfl

structure Near (r : Rect) : Prop where
  x_ge : -0x800000 ≤ r.x
  x_le : r.x ≤ 0x800000
  y_ge : -240 ≤ r.y
  y_le : r.y ≤ 0x7FFFFFFE
  height_ge : -1 ≤ r.height
  height_le : r.height ≤ 256

theorem near_nowhere : Near .nowhere := by
  constructor <;> decide

theorem two_within : (2 : OffsetWord).Within (2 : Nat) 2 2 :=
  within_self _ (by decide)

theorem one_within : (1 : OffsetWord).Within (1 : Nat) 1 1 :=
  within_self _ (by decide)

theorem doubled_within {a : OffsetWord} {n : Nat} (ha : a.Within n 1 4096) :
    (2 * a).Within (2 * n : Nat) 1 8192 := by
  have hge := ha.ge
  have hdouble := two_within.natMul ha (by decide)
  exact hdouble.mono (by omega) hdouble.le

theorem cast_within {a : OffsetWord} {n : Nat} {u : Int} (ha : a.Within n 0 8192) (hn : n ≤ u) :
    (a.cast : PixelWord).Within (pixels n) 0 u := by
  have hle := ha.le
  rw [pixels_of_lt (by omega)]
  exact (ha.cast (by decide)).mono ha.ge hn

theorem point_within {x : Int} (hx : x.natAbs ≤ 2 ^ 30) :
    (of x : PixelWord).Within x (-0x40000000) 0x40000000 :=
  within_of (by omega) (by omega) (by decide)

/-- Words that hold the length of the data and the end of the row are large enough, as no difference
is negative. -/
theorem flipBelow_eq {g : Grid} {bound : Nat} (hl : g.layout.Valid) (hf : g.layout.flipBytes = true)
    (hp : p < g.length) (hlength : g.length < bound)
    (hrow : (p / g.layout.bytesPerRow + 1) * g.layout.bytesPerRow < bound) :
    (flipBelow bound g p).nat? = some (g.flip p) := by
  have hrowPos := hl.row_pos
  have hcolumnLe := hl.column_le
  rw [Nat.add_one_mul] at hrow
  have hdiv := Nat.div_add_mod' p g.layout.bytesPerRow
  have hlt := Nat.mod_lt p hl.row_pos
  have hlt' := Nat.mod_lt (p - (p - p % g.layout.bytesPerRow)) hl.column_pos
  have hle' := Nat.mod_le (p - (p - p % g.layout.bytesPerRow)) g.layout.bytesPerColumn
  have hplace := within_below (show p < bound by omega)
  have hrowBytes := within_divisor hl.row_pos (show g.layout.bytesPerRow < bound by omega)
  have hcolumnBytes := within_divisor hl.column_pos (show g.layout.bytesPerColumn < bound by omega)
  have hrowStart := hplace.natSub (hplace.natMod hrowBytes (by omega)) (Nat.mod_le _ _) (by omega)
  have hinRow := hplace.natSub hrowStart (by omega) (by omega)
  have hcolumnStart := (hrowStart.natAdd_of hinRow (q := bound - 1) (by omega) (by omega)).natSub
    (hinRow.natMod hcolumnBytes (by omega)) (by omega) (by omega)
  have hrest :=
    (hrowStart.natAdd_of hrowBytes (q := bound - 1) (by omega) (by omega)).natSub hcolumnStart
    (by omega) (by omega)
  have hrest' := (within_below hlength).natSub hcolumnStart (by omega) (by omega)
  have hbytes := (hcolumnBytes.natMin hrest (by omega)).natMin hrest' (by omega)
  have hone := within_divisor Nat.one_pos (show 1 < bound by omega)
  have hlast := (hcolumnStart.natAdd_of hbytes (q := bound - 1) (by omega) (by omega)).natSub hone
    (by omega) (by omega)
  rw [Grid.flip, if_pos ⟨hf, hp⟩]
  exact (hlast.natSub (hplace.natSub hcolumnStart (by omega) (by omega)) (by omega) (by omega)).nat?

/-- The end of the row is computed, and has to be a word, also where the data ends before it. -/
theorem flipBelow_eq_none {g : Grid} {bound : Nat} (hl : g.layout.Valid) (hp : p < bound)
    (hrow : bound ≤ (p / g.layout.bytesPerRow + 1) * g.layout.bytesPerRow) :
    (flipBelow bound g p).nat? = none := by
  rw [Nat.add_one_mul] at hrow
  have hdiv := Nat.div_add_mod' p g.layout.bytesPerRow
  have hplace := within_below hp
  -- The sum is too large or, in rows longer than the bound, its second term already is.
  have hstop : ((of p - of p % of g.layout.bytesPerRow) + of g.layout.bytesPerRow :
      Word 0 bound).Overflows := by
    by_cases hbytes : g.layout.bytesPerRow < bound
    · have hrowBytes := within_divisor hl.row_pos hbytes
      have hrowStart :=
        hplace.natSub (hplace.natMod hrowBytes (by omega)) (Nat.mod_le _ _) (by omega)
      exact hrowStart.add_overflows hrowBytes (by omega)
    · exact (of_overflows (by omega)).add_right
  have hflip : (flipBelow bound g p).Overflows :=
    hstop.sub_left.min_right.min_left.add_right.sub_left.sub_left
  rw [Word.nat?, hflip]
  rfl

section
variable (hg : g.Drawable)
include hg

theorem glyph_eq {x : PixelWord} {left : Int} (hx : x.Within left (-0x800000) 0x800000)
    (hrow : row < g.visibleRows) :
    let r : Rect := ⟨left, g.rowTop row, g.charWidth, g.glyphHeight⟩
    rect x (rowTop g row) (charWidth g) (glyphHeight g) = some r ∧ Near r := by
  have hy := rowTop_within hg.valid (hg.baseline_lt row hrow)
  have hheight := glyphHeight_within hg.valid
  exact ⟨rect_eq hx hy (charWidth_within hg.valid) hheight,
    hx.ge, hx.le, hy.ge, hy.le, Int.le_trans (by decide) hheight.ge, hheight.le⟩

theorem length_within : (of g.length : OffsetWord).Within g.length 0 0x4000000000000000 := by
  have hlength := hg.length_lt
  exact within_of (by omega) (by omega) (by decide)

theorem doubleLength_within :
    (2 * of g.length : OffsetWord).Within (2 * g.length : Nat) 0 0x8000000000000000 :=
  two_within.natMul (length_within hg) (by decide)

theorem rowStart_within (hrow : row < g.visibleRows) :
    (firstByte g + of row * rowBytes g).Within
    (g.firstByte + row * g.layout.bytesPerRow : Nat) 0 0x4000080000003000 := by
  have hrows := visibleRows_le hg
  have hrowWord : (of row : OffsetWord).Within row 0 0x80000000 :=
    within_of (by omega) (by omega) (by decide)
  exact (firstByte_within hg).natAdd (hrowWord.natMul (rowBytes_within hg.valid) (by decide))
    (by decide)

theorem firstNibble_within :
    (2 * firstByte g).Within (2 * g.firstByte : Nat) 0 0x8000000000006000 :=
  two_within.natMul (firstByte_within hg) (by decide)

theorem lastNibble_within :
    (2 * firstByte g + 2 * capacity g).Within
    (2 * g.firstByte + 2 * g.capacity : Nat) 0 0x8000100000006000 :=
  (firstNibble_within hg).natAdd (two_within.natMul (capacity_within hg) (by decide)) (by decide)

theorem nibbleVisible_eq (n : Nat) : nibbleVisible g n = some (decide (g.NibbleVisible n)) :=
  ((firstNibble_within hg).nat?_bind _).trans ((lastNibble_within hg).nat?_bind _)

theorem ifVisible_eq (n : Nat) (place : Option Rect) :
    ifVisible g n place = if g.NibbleVisible n then place else some .nowhere := by
  rw [ifVisible, nibbleVisible_eq hg]
  by_cases hn : g.NibbleVisible n
  · simp [hn]
  · simp [hn]

theorem shown_within {n : Nat} (hn : g.NibbleVisible n) :
    (of n - 2 * firstByte g).Within (n - 2 * g.firstByte : Nat) 0 0x8000100000006000 := by
  have hlast := (lastNibble_within hg).le
  obtain ⟨hlow, hhigh⟩ := hn
  have hnibble : (of n : OffsetWord).Within n 0 0x8000100000006000 :=
    within_of (by omega) (by omega) (by decide)
  exact hnibble.natSub (firstNibble_within hg) hlow (by decide)

theorem nibbleBounds_eq (n : Nat) :
    nibbleBounds g n = some (g.nibbleBounds n) ∧ Near (g.nibbleBounds n) := by
  rw [nibbleBounds, ifVisible_eq hg, Grid.nibbleBounds]
  split
  next hn =>
    have hshown := shown_within hg hn
    have hrowNibbles := doubled_within (rowBytes_within hg.valid)
    have hcolumnNibbles := doubled_within (columnBytes_within hg.valid)
    have hinRow := hshown.natMod hrowNibbles (by decide)
    obtain ⟨hlow, hhigh⟩ := hn
    have hpos : 0 < 2 * g.layout.bytesPerRow := Nat.mul_pos (by decide) hg.valid.layout.row_pos
    have hrow : (n - 2 * g.firstByte) / (2 * g.layout.bytesPerRow) < g.visibleRows := by
      rw [Nat.div_lt_iff_lt_mul hpos, Nat.mul_left_comm]
      unfold Grid.capacity at hhigh
      omega
    have hcolumn : (n - 2 * g.firstByte) % (2 * g.layout.bytesPerRow) /
        (2 * g.layout.bytesPerColumn) ≤ g.layout.columnsPerRow := by
      have hlt := Nat.mod_lt (n - 2 * g.firstByte) hpos
      rw [← Nat.div_div_eq_div_mul]
      exact column_le_columnsPerRow hg (by omega)
    have hcolumns := columnsPerRow_le hg.valid
    have hcolumnWord := hinRow.natDiv hcolumnNibbles (by decide)
    have hdigitWord := hinRow.natMod hcolumnNibbles (by decide)
    rw [(hshown.natDiv hrowNibbles (by decide)).nat?_bind]
    exact glyph_eq hg (digitLeft_within hg hcolumn (cast_within hcolumnWord (by omega))
      (cast_within hdigitWord hdigitWord.le)) hrow
  next hn => exact ⟨rfl, near_nowhere⟩

theorem textBounds_eq (n : Nat) :
    textBounds g n = some (g.textBounds n) ∧ Near (g.textBounds n) := by
  rw [textBounds, ifVisible_eq hg, Grid.textBounds]
  split
  next hn =>
    have hshown := (shown_within hg hn).natDiv two_within (by decide)
    have hrowBytes := rowBytes_within hg.valid
    have hpos := hg.valid.layout.row_pos
    obtain ⟨hlow, hhigh⟩ := hn
    have hrow : (n - 2 * g.firstByte) / 2 / g.layout.bytesPerRow < g.visibleRows := by
      rw [Nat.div_lt_iff_lt_mul hpos]
      unfold Grid.capacity at hhigh
      omega
    rw [(hshown.natDiv hrowBytes (by decide)).nat?_bind,
      (hshown.natMod hrowBytes (by decide)).nat?_bind]
    exact glyph_eq hg (textCellX_within hg (Nat.mod_lt _ hpos)) hrow
  next hn => exact ⟨rfl, near_nowhere⟩

theorem caretBounds_eq (n : Nat) (pane : Pane) :
    caretBounds g n pane = some (g.caretBounds n pane) := by
  have hcell : (if pane = .text then textBounds g n else nibbleBounds g n) =
      some (if pane = .text then g.textBounds n else g.nibbleBounds n) ∧
        Near (if pane = .text then g.textBounds n else g.nibbleBounds n) := by
    split
    · exact textBounds_eq hg n
    · exact nibbleBounds_eq hg n
  rw [caretBounds, hcell.1, Grid.caretBounds]
  generalize (if pane = .text then g.textBounds n else g.nibbleBounds n) = cell at hcell
  obtain ⟨hx, hx', hy, hy', hheight, hheight'⟩ := hcell.2
  simp only [Option.bind_eq_bind, Option.bind_some]
  split
  · rfl
  · have hone : (1 : PixelWord).Within 1 1 1 := within_self 1 (by decide)
    have htwo : (2 : PixelWord).Within 2 2 2 := within_self 2 (by decide)
    exact rect_eq ((within_of hx hx' (by decide)).sub hone (by decide))
      ((within_of hy hy' (by decide)).sub hone (by decide)) htwo
      ((within_of hheight hheight' (by decide)).add htwo (by decide))

theorem flip_eq (p : Nat) : flip g p = some (g.flip p) := by
  by_cases hp : g.layout.flipBytes ∧ p < g.length
  · have hlength := hg.length_lt
    have hrow := hg.valid.layout.row_le
    have hstart := Nat.div_mul_le_self p g.layout.bytesPerRow
    -- The row of a byte ends not far behind the data.
    have hstop : (p / g.layout.bytesPerRow + 1) * g.layout.bytesPerRow < 2 ^ 64 := by
      rw [Nat.add_one_mul]
      omega
    rw [flip, if_pos hp]
    exact flipBelow_eq hg.valid.layout hp.1 hp.2 (by omega) hstop
  · rw [flip, if_neg hp, Grid.flip_eq_self hp]

-- ---------------------------------------------------------------------------
-- Points without overflow
-- ---------------------------------------------------------------------------

theorem firstTop_within : (rowTop g 0).Within (g.rowTop 0) 1 260 := by
  have hpadding := (topPadding_within hg.valid).le
  have hheight := hg.valid.glyphHeight_pos
  have hzero : g.topPadding + (0 : Nat) * g.metrics.rowHeight < 2 ^ 31 := by omega
  have htop := rowTop_within hg.valid hzero
  refine htop.mono hg.valid.rowTop_zero_pos ?_
  rw [hg.valid.rowTop_zero]
  omega

theorem paneAt?_eq (x y : Int) : paneAt? g x y = some (g.paneAt? x y) :=
  ((firstTop_within hg).int?_bind _).trans
    (((hexPaneLeft_within hg).int?_bind _).trans ((textPaneLeft_within hg).int?_bind _))

theorem rowAt?_eq {y : Int} (hy : y.natAbs ≤ 2 ^ 30) : rowAt? g y = some (g.rowAt? y) := by
  have htop := firstTop_within hg
  rw [rowAt?, htop.int?_bind, Grid.rowAt?]
  split
  next => rfl
  next hlow =>
    have hdistance := (point_within hy).sub htop (by decide)
    have hnonneg : 0 ≤ y - g.rowTop 0 := by omega
    have hrow :
        (Word.cast ((of y - rowTop g 0) / rowHeight g) : OffsetWord).Within _ 0 0x3FFFFFFF :=
      ((hdistance.mono hnonneg hdistance.le).tdiv (rowHeight_within hg.valid) (by decide)).toOffset
        (by decide)
    exact hrow.nat?_bind _

section
variable {dx : PixelWord} {d : Int}

theorem hexNibbleAt?_eq (hdx : dx.Within d 0 0x50000000) :
    hexNibbleAt? g dx = some (g.hexNibbleAt? d) := by
  have hsize := columnSize_within hg.valid
  have hbytes := columnBytes_within hg.valid
  have hcolumn : (Word.cast (dx / columnSize g) : OffsetWord).Within _ 0 0x50000000 :=
    (hdx.tdiv hsize (by decide)).toOffset (by decide)
  have hdigit : (Word.cast (dx % columnSize g / charWidth g) : OffsetWord).Within _ 0 2097408 :=
    ((hdx.tmod hsize (by decide)).tdiv (charWidth_within hg.valid) (by decide)).toOffset (by decide)
  have hstart := hcolumn.natMul hbytes (by decide)
  have hbyte := hstart.natAdd (hdigit.natDiv two_within (by decide)) (by decide)
  have hnibble := (two_within.natMul hstart (by decide)).natAdd hdigit (by decide)
  rw [hexNibbleAt?, (doubled_within hbytes).nat?_bind, hbyte.nat?_bind, hnibble.nat?_bind,
    hdigit.nat?_bind]
  rfl

theorem textNibbleAt?_eq (hdx : dx.Within d (-0x50000000) 0x50000000) :
    textNibbleAt? g dx = some (g.textNibbleAt? d) := by
  rw [textNibbleAt?, hdx.int?_bind, Grid.textNibbleAt?]
  split
  next => rfl
  next hd =>
    have hcharacter : (Word.cast (dx / charWidth g) : OffsetWord).Within _ 0 0x50000000 :=
      ((hdx.mono (Int.not_lt.mp hd) hdx.le).tdiv (charWidth_within hg.valid) (by decide)).toOffset
        (by decide)
    rw [(two_within.natMul hcharacter (by decide)).nat?_bind, hcharacter.nat?_bind]
    rfl

end

omit hg in
theorem andThen_some (x : α) (next : α → Option (Option β)) :
    andThen (some (some x)) next = next x :=
  rfl

theorem nibbleInRow?_eq (hrow : row < g.visibleRows) (hinRow : inRow < 2 * g.layout.bytesPerRow) :
    nibbleInRow? g row inRow =
      some (if g.nibbleIn row inRow < 2 * g.length then some (g.nibbleIn row inRow) else none) := by
  have hbytes := hg.valid.layout.row_le
  have hinRowWord : (of inRow : OffsetWord).Within inRow 0 8192 :=
    within_of (by omega) (by omega) (by decide)
  have hnibble :=
    (two_within.natMul (rowStart_within hg hrow) (by decide)).natAdd hinRowWord (by decide)
  rw [nibbleInRow?, hnibble.nat?_bind, (doubleLength_within hg).nat?_bind]
  rfl

theorem highlighted_eq {n : Nat} (hn : n < 2 * g.length) (pane : Option Pane) :
    highlighted g n pane =
      some (((if pane = some .text then [g.nibbleBounds n, g.nibbleBounds (n + 1)]
        else [g.nibbleBounds n]) ++
        [g.textBounds n]).filter (fun r => ¬ r.IsEmpty)) := by
  have hlength := hg.length_lt
  have hnibble : (of n : OffsetWord).Within n 0 0x8000000000000000 :=
    within_of (by omega) (by omega) (by decide)
  have hnext := hnibble.natAdd one_within (by decide)
  rw [highlighted, hnext.nat?_bind, (nibbleBounds_eq hg n).1, (nibbleBounds_eq hg (n + 1)).1,
    (textBounds_eq hg n).1]
  rfl

section
variable {x y : Int} (hx : x.natAbs ≤ 2 ^ 30)
include hx

theorem rowNibbleAt?_eq : rowNibbleAt? g x = some (g.rowNibbleAt? x) := by
  have hhex := (hexPaneLeft_within hg).add padding_within (by decide)
  have htext := (textPaneLeft_within hg).add padding_within (by decide)
  rw [rowNibbleAt?, hhex.int?_bind, (textPaneLeft_within hg).int?_bind, Grid.rowNibbleAt?]
  split
  next => rfl
  next hleft =>
  split
  next =>
    have hdistance := (point_within hx).sub hhex (by decide)
    exact hexNibbleAt?_eq hg (hdistance.mono (Int.sub_nonneg_of_le (Int.not_lt.mp hleft))
      (Int.le_trans hdistance.le (by decide)))
  next =>
    have hdistance := (point_within hx).sub htext (by decide)
    exact textNibbleAt?_eq hg (hdistance.widen (by decide))

theorem nibbleAt?_eq (hy : y.natAbs ≤ 2 ^ 30) : nibbleAt? g x y = some (g.nibbleAt? x y) := by
  rw [nibbleAt?, rowAt?_eq hg hy, rowNibbleAt?_eq hg hx, Grid.nibbleAt?]
  cases hrow : g.rowAt? y with
  | none => rfl
  | some row =>
  cases hinRow : g.rowNibbleAt? x with
  | none => rfl
  | some inRow =>
    have hlt := ((hg.valid.rowAt?_eq_some_iff (by omega)).mp hrow).1
    have hlt' := ((hg.valid.rowNibbleAt?_eq_some_iff (by omega)).mp hinRow).1
    rw [andThen_some, andThen_some, nibbleInRow?_eq hg hlt hlt']
    rfl

theorem hoverRects_eq (hy : y.natAbs ≤ 2 ^ 30) : hoverRects g x y = some (g.hoverRects x y) := by
  rw [hoverRects, bind_of_eq_some (paneAt?_eq hg x y), bind_of_eq_some (nibbleAt?_eq hg hx hy),
    Grid.hoverRects]
  cases hnibble : g.nibbleAt? x y with
  | none => rfl
  | some n =>
    have hn := (Grid.nibbleAt?_parts.mp hnibble).1
    rw [Option.elim_some, highlighted_eq hg hn]

end

end

end InWords

end HexEditor
