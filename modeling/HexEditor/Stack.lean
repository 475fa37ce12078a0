import HexEditor.Layout
import HexEditor.Poller

/-!
# The stack panel

A table with one machine word per row: its address and its value, the row of the stack pointer
marked. Values that have not arrived are drawn as question marks and polled for.
-/

namespace HexEditor

/-- What a stack panel shows. Ranges asked for are ranges of addresses. -/
class StackModel (μ : Type) extends Probe μ where
  /-- Address of the first entry, if the stack is known. -/
  start? : μ → Option Nat
  count : μ → Nat
  pointer? : μ → Option Nat
  /-- Text of the entry at an address. -/
  element : μ → Nat → String

structure StackRow where
  address : Nat
  label : String
  labelX : Int
  value : String
  valueX : Int
  baseline : Int
  /-- Background of the address in the row of the stack pointer. -/
  mark : Option Rect
deriving DecidableEq, Repr

structure StackFrame where
  status : Status
  /-- Right edge of the address column. -/
  addressRight : Int
  rows : List StackRow
deriving DecidableEq, Repr

structure StackTable (μ : Type) where
  model : μ
  addressWidth : AddressWidth := .bits32
  metrics : Metrics := {}
  firstRow : Nat := 0
  /-- Characters scrolled to the right. -/
  firstColumn : Nat := 0
  height : Nat := 400
  poller : Poller := {}
deriving Repr

namespace StackTable

def setMetrics (t : StackTable μ) (metrics : Metrics) : Except Error (StackTable μ) := do
  metrics.validate
  return { t with metrics }

def setRetryInterval (t : StackTable μ) (interval : Nat) : StackTable μ :=
  { t with poller := { t.poller with interval } }

def elementSize (t : StackTable μ) : Nat :=
  t.addressWidth.wordSize

def scrollX (t : StackTable μ) : Int :=
  pixels (t.firstColumn * t.metrics.charWidth)

def addressColumn (t : StackTable μ) : Int :=
  t.metrics.addressColumn t.addressWidth

def visibleRows (t : StackTable μ) : Nat :=
  divUp (t.height - t.metrics.topPadding).toNat t.metrics.rowHeight

def baseline (t : StackTable μ) (row : Nat) : Int :=
  wrapPixels (t.metrics.topPadding + row * t.metrics.rowHeight)

variable [StackModel μ] (t : StackTable μ)

def setFirstRow (row : Nat) : StackTable μ :=
  { t with firstRow := min row (StackModel.count t.model - 1) }

def shownRows : Nat :=
  min t.visibleRows (StackModel.count t.model - t.firstRow)

def region (start : Nat) : ByteRange :=
  ⟨Offset.wrapAdd start (t.firstRow * t.elementSize), t.shownRows * t.elementSize⟩

def row (start : Nat) (defined : Bool) (i : Nat) : StackRow :=
  let address := Offset.wrapAdd (t.region start).offset (i * t.elementSize)
  let labelX := 10 - t.scrollX
  let baseline := t.baseline i
  let glyphHeight := pixels t.metrics.charHeight
  let textWidth := pixels t.metrics.charWidth * 2 * t.elementSize
  { address
    label := t.addressWidth.format address
    labelX
    value :=
      if defined then StackModel.element t.model address
      else String.ofList (List.replicate (2 * t.elementSize) '?')
    valueX := 10 + t.addressColumn - t.scrollX
    baseline
    mark :=
      if StackModel.pointer? t.model = some address then
        some ⟨labelX - 2, baseline - glyphHeight, textWidth + 4, glyphHeight + 2⟩
      else none }

def render (now : Nat) : StackFrame × StackTable μ :=
  let addressRight := t.addressColumn - t.scrollX
  match StackModel.start? t.model with
  | none => (⟨t.poller.status, addressRight, []⟩, t)
  | some start =>
    let (defined, poller, model) := t.poller.check t.model (t.region start) now
    let checked := { t with poller, model }
    (⟨poller.status, addressRight, (List.range t.shownRows).map (checked.row start defined)⟩,
      checked)

def valueAt (y : Int) : Option String × StackTable μ :=
  let rowHeight := pixels t.metrics.rowHeight
  let line := wrapPixels (y - t.metrics.topPadding + rowHeight)
  if line < 0 then (none, t)
  else
    let line := Offset.ofInt (line.tdiv rowHeight)
    if t.shownRows ≤ line then (none, t)
    else
      match StackModel.start? t.model with
      | none => (none, t)
      | some start =>
        let address := Offset.wrapAdd start ((t.firstRow + line) * t.elementSize)
        let (there, model) := Probe.request t.model ⟨address, t.elementSize⟩
        (if there then some (StackModel.element model address) else none, { t with model })

def tick (now : Nat) : Bool × StackTable μ :=
  let (changed, poller, model) := t.poller.tick t.model now
  (changed, { t with poller, model })

def pollNow (now : Nat) : Bool × StackTable μ :=
  let (changed, poller, model) := t.poller.pollNow t.model now
  (changed, { t with poller, model })

end StackTable

-- ---------------------------------------------------------------------------
-- Stacks
-- ---------------------------------------------------------------------------

structure WordStack where
  bytes : Bytes
  wordSize : Nat
deriving DecidableEq, Repr

namespace WordStack

/-- Whole words; bytes left over at the end are not shown. -/
def count (s : WordStack) : Nat :=
  s.bytes.size / s.wordSize

/-- The stack pointer is taken to be in the middle. -/
def pointer (s : WordStack) : Nat :=
  s.count / 2 * s.wordSize

/-- A word as a little-endian number, two digits per byte. -/
def element (s : WordStack) (address : Nat) : String :=
  if address + s.wordSize ≤ s.bytes.size then
    String.join ((s.bytes.extract address (address + s.wordSize)).toList.reverse.map Hex.byte)
  else String.ofList (List.replicate (2 * s.wordSize) '?')

instance : StackModel WordStack where
  request s r := (decide (r.stop ≤ s.bytes.size), s)
  keepsTrying _ := true
  start? s := if s.bytes.isEmpty then none else some 0
  count := count
  pointer? s := some s.pointer
  element := element

end WordStack

/-- A stack that plays a script: whether words are there is answered from a list, and the text of a
word is its address. -/
structure ScriptedStack where
  start : Option Nat := none
  count : Nat := 0
  pointer : Option Nat := none
  script : Script := {}
  givesUp : Bool := false
deriving DecidableEq, Repr, Inhabited

instance : StackModel ScriptedStack where
  request s _ :=
    let (answer, script) := s.script.next
    (answer, { s with script })
  keepsTrying s := !s.givesUp
  start? := ScriptedStack.start
  count := ScriptedStack.count
  pointer? := ScriptedStack.pointer
  element _ address := String.ofList ('<' :: Hex.lowerDigits address ++ ['>'])

end HexEditor
