import HexEditor.Frame
import HexEditor.Viewport

/-!
# The view

A view holds a source, the layout, the selection, the scroll position, highlights and the poller. A
host feeds it input, asks it for frames, and takes the events that tell what changed. Events are
queued when the view is consistent again.

The hex pane moves by digits, the text pane by bytes. After a move the caret's row is on screen.
Pressing puts the caret under the pointer, dragging extends the selection. A pointer dragged above
or below the grid scrolls it by one row and extends the selection by one row. A character overwrites
the digit under the caret, or the byte in the text pane, and the caret advances.

Composing a frame may find that bytes are missing; the view is then undefined until a poll finds
them.
-/

namespace HexEditor

inductive Event
  | selectionChanged (start : Nat) (length : Int)
  | dataChanged
  | layoutChanged
  | statusChanged (status : Status)
  | repaintRequested
deriving DecidableEq, Repr

structure View (σ : Type) where
  source : Option σ := none
  layout : Layout := {}
  metrics : Metrics := {}
  palette : Palette := {}
  selection : Selection := {}
  viewport : Viewport := {}
  layers : Layers := {}
  colormap : Option Colormap := none
  poller : Poller := {}
  activePane : Pane := .hex
  /-- Where the pointer is, if it is over the grid. -/
  hover : Option (Int × Int) := none
  focused : Bool := true
  enabled : Bool := true
  events : List Event := []
deriving Inhabited

namespace View

def emit (v : View σ) (event : Event) : View σ :=
  { v with events := v.events ++ [event] }

def emitSelection (v : View σ) : View σ :=
  (v.emit (.selectionChanged v.selection.start v.selection.length)).emit .repaintRequested

def takeEvents (v : View σ) : List Event × View σ :=
  (v.events, { v with events := [] })

def caret (v : View σ) : Nat :=
  v.selection.caret

variable [ByteSource σ] (v : View σ)

def length : Nat :=
  v.source.elim 0 ByteSource.length

def grid : Grid :=
  { layout := v.layout
    metrics := v.metrics
    length := v.length
    firstRow := v.viewport.firstRow
    firstColumn := v.viewport.firstColumn
    visibleRows := v.viewport.visibleRows v.metrics.topPadding v.metrics.rowHeight }

def caretOffset : Nat :=
  v.grid.offsetOfNibble v.caret

def visibleRange : ByteRange :=
  v.grid.shownRange

def relayout : View σ :=
  { v with viewport := v.viewport.recomputeExtents v.grid }

def ensureCaretVisible : View σ :=
  { v with
    viewport := v.viewport.ensureVisible v.caret v.layout.bytesPerRow v.grid.visibleRows }

-- ---------------------------------------------------------------------------
-- The source
-- ---------------------------------------------------------------------------

/-- Start over with a source, or without one. -/
def resetWith (source : Option σ) : View σ :=
  let fresh := { v with source, poller := v.poller.reset, hover := none }
  let fresh := { fresh with selection := .empty (2 * fresh.length) }.relayout
  let fresh := { fresh with viewport := (fresh.viewport.setFirstRow 0).setFirstColumn 0 }
  let fresh := fresh.emit .dataChanged
  (if v.poller.status = .defined then fresh else fresh.emit (.statusChanged .defined)).emitSelection

def install (source : σ) : View σ :=
  v.resetWith (some source)

def uninstall : View σ :=
  v.resetWith none

def dataChanged : View σ :=
  let changed := { v with selection := v.selection.setLimit (2 * v.length) }.relayout
  let changed := changed.emit .dataChanged
  if changed.selection = v.selection then changed.emit .repaintRequested else changed.emitSelection

def selectedData : Except Error Bytes :=
  match v.selection.bytes?, v.source with
  | none, _ => .ok #[]
  | some _, none => .error (.invalid .noSource)
  | some range, some source => ByteSource.read source range

-- ---------------------------------------------------------------------------
-- Layout
-- ---------------------------------------------------------------------------

def layoutChanged : View σ :=
  (v.relayout.ensureCaretVisible.emit .layoutChanged).emit .repaintRequested

def setLayout (layout : Layout) : Except Error (View σ) := do
  layout.validate
  return if layout = v.layout then v else { v with layout }.layoutChanged

def setBytesPerRow (bytesPerRow : Nat) : Except Error (View σ) :=
  v.setLayout { v.layout with bytesPerRow }

def setBytesPerColumn (bytesPerColumn : Nat) : Except Error (View σ) :=
  v.setLayout { v.layout with bytesPerColumn }

def setColumnSpacing (columnSpacing : Nat) : Except Error (View σ) :=
  v.setLayout { v.layout with columnSpacing }

def setAddressWidth (addressWidth : AddressWidth) : Except Error (View σ) :=
  v.setLayout { v.layout with addressWidth }

def setFlipBytes (flipBytes : Bool) : Except Error (View σ) :=
  v.setLayout { v.layout with flipBytes }

def setBaseAddress (baseAddress : Nat) : Except Error (View σ) :=
  v.setLayout { v.layout with baseAddress }

def setMetrics (metrics : Metrics) : Except Error (View σ) := do
  metrics.validate
  return if metrics = v.metrics then v else { v with metrics }.layoutChanged

def resize (width height : Nat) : View σ :=
  if v.viewport.width = width ∧ v.viewport.height = height then v
  else { v with viewport := { v.viewport with width, height } }.layoutChanged

omit [ByteSource σ]

def setPalette (palette : Palette) : View σ :=
  { v with palette }.emit .repaintRequested

def setColormap (colormap : Option Colormap) : View σ :=
  { v with colormap }.emit .repaintRequested

def setFocused (focused : Bool) : View σ :=
  if v.focused = focused then v else { v with focused }.emit .repaintRequested

/-- A disabled view draws every byte in one color and ignores mouse and keyboard. -/
def setEnabled (enabled : Bool) : View σ :=
  if v.enabled = enabled then v
  else { v with enabled, hover := if enabled then v.hover else none }.emit .repaintRequested

def setRetryInterval (interval : Nat) : View σ :=
  { v with poller := { v.poller with interval } }

-- ---------------------------------------------------------------------------
-- Scrolling
-- ---------------------------------------------------------------------------

def setFirstRow (row : Nat) : View σ :=
  { v with viewport := v.viewport.setFirstRow row }.emit .repaintRequested

def setFirstColumn (column : Nat) : View σ :=
  { v with viewport := v.viewport.setFirstColumn column }.emit .repaintRequested

def scrollWheel (rows : Int) : View σ :=
  let viewport := v.viewport.scrollRows rows
  let scrolled := { v with viewport }
  if viewport.firstRow = v.viewport.firstRow then scrolled else scrolled.emit .repaintRequested

-- ---------------------------------------------------------------------------
-- Highlights
-- ---------------------------------------------------------------------------

def setLayers (layers : Layers) : View σ :=
  { v with layers }.emit .repaintRequested

def pushLayer : View σ :=
  { v with layers := v.layers.push }

def colorize (layer : Nat) (h : Highlight) : Except Error (View σ) :=
  v.setLayers <$> v.layers.add layer h

def uncolorize (layer : Nat) (span : ByteRange) : Except Error (View σ) :=
  v.setLayers <$> v.layers.remove layer span

def uncolorizeAll (layer : Option Nat) : Except Error (View σ) :=
  v.setLayers <$> v.layers.clear layer

end View

-- ---------------------------------------------------------------------------
-- Moving the caret
-- ---------------------------------------------------------------------------

namespace View

def horizontalStep (v : View σ) : Int :=
  if v.activePane = .text then 2 else 1

def rowStep (v : View σ) : Int :=
  2 * v.layout.bytesPerRow

variable [ByteSource σ] (v : View σ)

def moveBy (delta : Int) (extend : Bool) : View σ :=
  let selection := v.selection.moveBy delta extend
  if v.enabled ∧ selection ≠ v.selection then
    { v with selection }.ensureCaretVisible.emitSelection
  else v

def moveLeft (extend : Bool) : View σ :=
  v.moveBy (-v.horizontalStep) extend

def moveRight (extend : Bool) : View σ :=
  v.moveBy v.horizontalStep extend

def moveUp (extend : Bool) : View σ :=
  v.moveBy (-v.rowStep) extend

def moveDown (extend : Bool) : View σ :=
  v.moveBy v.rowStep extend

/-- Nibbles of a page; a page has at least one row. -/
def pageStep : Int :=
  (max v.grid.visibleRows 1 : Nat) * v.rowStep

def pageUp (extend : Bool) : View σ :=
  v.moveBy (-v.pageStep) extend

def pageDown (extend : Bool) : View σ :=
  v.moveBy v.pageStep extend

def setCaret (nibble : Nat) : Except Error (View σ) := do
  let selection ← v.selection.setCaret nibble
  return { v with selection }.ensureCaretVisible.emitSelection

def setSelectionLength (length : Int) : View σ :=
  { v with selection := v.selection.setLength length }.ensureCaretVisible.emitSelection

/-- Bring the caret on screen; that takes a repaint only if it takes scrolling. -/
def revealCaret : View σ :=
  let (scrolled, viewport) := v.viewport.reveal v.caret v.layout.bytesPerRow v.grid.visibleRows
  if scrolled then { v with viewport }.emit .repaintRequested else { v with viewport }

/-- Put the caret on an address; one below the base address is an offset from the start of the data.
A caret that is on that byte already stays where it is. -/
def goto (address : Nat) : Except Error (View σ) :=
  let base := v.layout.baseAddress
  let offset := if base ≤ address then address - base else address
  if v.length ≤ offset then .error (.outOfRange address v.length)
  else if v.caret < 2 * v.length ∧ v.caretOffset = offset then .ok v.revealCaret
  else v.setCaret (v.grid.nibbleOfOffset offset)

/-- Put the caret on an address of the data, or on the one after it. -/
def setCurrentAddress (address : Nat) : Except Error (View σ) :=
  let base := v.layout.baseAddress
  if base ≤ address ∧ address - base ≤ v.length then
    v.setCaret (v.grid.nibbleOfOffset (address - base))
  else .error (.outOfRange address v.length)

omit [ByteSource σ] in
/-- Switch between the hex pane and the text pane. The text pane works on whole bytes, so a caret on
a low digit moves to the high one. -/
def togglePane : View σ :=
  if v.enabled then
    if v.activePane = .text then { v with activePane := .hex }.emitSelection
    else
      let selection := if v.caret % 2 = 1 then v.selection.moveBy (-1) false else v.selection
      { v with activePane := .text, selection }.emitSelection
  else v

end View

-- ---------------------------------------------------------------------------
-- The mouse
-- ---------------------------------------------------------------------------

namespace View

variable [ByteSource σ] (v : View σ)

/-- Presses and drags count only on a view that shows its bytes. -/
def acceptsInput : Bool :=
  v.enabled && v.source.isSome && v.poller.status = .defined

def press (x y : Int) : View σ :=
  if v.acceptsInput then
    let activePane :=
      match v.grid.paneAt? x y with
      | some .hex => .hex
      | some .text => .text
      | _ => v.activePane
    let nibble := (v.grid.nibbleAt? x y).getD v.caret
    let selection :=
      match v.selection.setCaret nibble with
      | .ok selection => selection
      | .error _ => v.selection
    { v with activePane, selection }.emitSelection
  else v

def dragRow (rows : Int) : View σ :=
  { v with
    viewport := v.viewport.scrollRows rows
    selection := v.selection.moveBy (rows * v.rowStep) true }.emitSelection

def drag (x y : Int) : View σ :=
  if v.acceptsInput then
    if y < v.grid.rowTop 0 then v.dragRow (-1)
    else if pixels v.viewport.height ≤ y then v.dragRow 1
    else
      match v.grid.nibbleAt? x y with
      | some nibble => { v with selection := v.selection.extendTo nibble }.emitSelection
      | none => v
  else v

def offsetAt? (x y : Int) : Option Nat :=
  (v.grid.nibbleAt? x y).map v.grid.offsetOfNibble

omit [ByteSource σ]

def hoverAt (x y : Int) : View σ :=
  if v.enabled ∧ v.hover ≠ some (x, y) then { v with hover := some (x, y) }.emit .repaintRequested
  else v

def leave : View σ :=
  if v.hover.isSome then { v with hover := none }.emit .repaintRequested else v

end View

-- ---------------------------------------------------------------------------
-- Typing
-- ---------------------------------------------------------------------------

inductive Rejection
  | noSource
  | disabled
  | undefined
  | readOnly
  | endOfData
  | invalidChar
  | writeFailed
deriving DecidableEq, Repr

def Rejection.name : Rejection → String
  | noSource => "NoSource"
  | disabled => "Disabled"
  | undefined => "Undefined"
  | readOnly => "ReadOnly"
  | endOfData => "EndOfData"
  | invalidChar => "InvalidChar"
  | writeFailed => "WriteFailed"

structure Edit where
  offset : Nat
  value : UInt8
deriving DecidableEq, Repr

/-- A byte with its high digit replaced, or its low one. -/
def setDigit (old : UInt8) (high : Bool) (digit : Nat) : UInt8 :=
  if high then (16 * digit + old.toNat % 16).toUInt8 else (old.toNat / 16 * 16 + digit).toUInt8

namespace View

variable [ByteSource σ] (v : View σ)

def typedByte (source : σ) (offset : Nat) (c : Char) : Except Rejection UInt8 :=
  if v.activePane = .text then
    if c.toNat < 256 ∧ isPrintable c.toNat.toUInt8 then .ok c.toNat.toUInt8 else .error .invalidChar
  else
    match Hex.value? c with
    | none => .error .invalidChar
    | some digit =>
      match ByteSource.read source ⟨offset, 1⟩ with
      | .ok #[old] => .ok (setDigit old (v.caret % 2 = 0) digit)
      | _ => .error .undefined

/-- The edit that a character makes, and the source after it. The first reason that applies rejects
it. -/
def applyChar (c : Char) : Except Rejection (Edit × σ) :=
  match v.source with
  | none => .error .noSource
  | some source =>
    if ¬ v.enabled then .error .disabled
    else if v.poller.status = .undefined then .error .undefined
    else if ¬ ByteSource.editable source then .error .readOnly
    else if 2 * ByteSource.length source ≤ v.caret then .error .endOfData
    else
      let offset := v.caretOffset
      match v.typedByte source offset c with
      | .error reason => .error reason
      | .ok value =>
        match ByteSource.write source offset #[value] with
        | .error _ => .error .writeFailed
        | .ok source => .ok (⟨offset, value⟩, source)

def typeChar (c : Char) : Except Rejection Edit × View σ :=
  match v.applyChar c with
  | .error reason => (.error reason, v)
  | .ok (edit, source) =>
    let typed :=
      { v with source := some source, selection := v.selection.moveBy v.horizontalStep false }
    (.ok edit, (typed.ensureCaretVisible.emit .dataChanged).emitSelection)

def typeChars (v : View σ) : List Char → List (Except Rejection Edit) × View σ
  | [] => ([], v)
  | c :: cs =>
    let (outcome, typed) := v.typeChar c
    let (outcomes, typed) := typed.typeChars cs
    (outcome :: outcomes, typed)

def typeText (text : String) : List (Except Rejection Edit) × View σ :=
  v.typeChars text.toList

end View

-- ---------------------------------------------------------------------------
-- Frames and polls
-- ---------------------------------------------------------------------------

namespace View

variable [ByteSource σ] (v : View σ)

def scene (data : Option Bytes) : Scene :=
  { grid := v.grid
    selection := v.selection
    layers := v.layers
    colormap := v.colormap
    palette := v.palette
    data
    activePane := v.activePane
    hover := v.hover
    enabled := v.enabled
    showCaret := v.focused && v.enabled && v.source.isSome }

/-- The bytes on screen, if they are there; a view without a source has none to wait for. -/
def fetch (now : Nat) : Option Bytes × View σ :=
  match v.source with
  | none => (some #[], v)
  | some source =>
    let (data, poller, source) := v.poller.fetch source v.visibleRange now
    let fetched := { v with poller, source := some source }
    (data, if poller.status = v.poller.status then fetched
      else fetched.emit (.statusChanged poller.status))

def render (now : Nat) : Frame × View σ :=
  let (data, fetched) := v.fetch now
  ((v.scene data).compose, fetched)

def statusChanged : View σ :=
  (v.emit (.statusChanged v.poller.status)).emit .repaintRequested

/-- Pick up changes of the source, and poll if it is time to. -/
def tick (now : Nat) : View σ :=
  match v.source with
  | none => v
  | some source =>
    let (changed, source) := ByteSource.takeChange source
    let (polled, poller, source) := v.poller.tick source now
    let ticked := { v with source := some source, poller }
    let ticked := if changed then ticked.dataChanged else ticked
    if polled then ticked.statusChanged else ticked

def pollNow (now : Nat) : View σ :=
  match v.source with
  | none => v
  | some source =>
    let (polled, poller, source) := v.poller.pollNow source now
    let done := { v with source := some source, poller }
    if polled then done.statusChanged else done

end View

end HexEditor
