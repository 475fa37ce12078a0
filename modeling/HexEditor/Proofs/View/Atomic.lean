import HexEditor.Proofs.View.Run
import HexEditor.Source

/-!
# Calls that fail

Here the calls that can fail are programs that work on a view in place, store by store. There is no
rollback: what a program has changed by the time it fails stays changed, in the view and in its
source. `attempt_atomic` says that each of them ends as the call does, and that one that fails has
changed nothing: all that can be refused is checked before the first store.
-/

namespace HexEditor

/-- A program on a state of type `s` that may fail with an `ε`. -/
abbrev Program (ε s : Type) := ExceptT ε (StateM s)

/-- How an operation ends that either gives the next state or refuses. -/
def settle (state : s) : Except ε s → Except ε Unit × s
  | .ok next => (.ok (), next)
  | .error e => (.error e, state)

namespace Program

def exec (p : Program ε s α) (state : s) : Except ε α × s :=
  p.run state

def focus (part : s → t) (put : s → t → s) (p : Program ε t α) : Program ε s α :=
  ExceptT.mk fun state =>
    let (answer, next) := p.exec (part state)
    (answer, put state next)

variable {state : s}

@[simp] theorem exec_pure (a : α) : (pure a : Program ε s α).exec state = (.ok a, state) := rfl

@[simp] theorem exec_throw (e : ε) : (throw e : Program ε s α).exec state = (.error e, state) := rfl

@[simp] theorem exec_get : (get : Program ε s s).exec state = (.ok state, state) := rfl

@[simp] theorem exec_modify (f : s → s) :
    (modify f : Program ε s Unit).exec state = (.ok (), f state) := rfl

@[simp] theorem exec_bind (p : Program ε s α) (q : α → Program ε s β) :
    (p >>= q).exec state =
      match p.exec state with
      | (.ok a, next) => (q a).exec next
      | (.error e, next) => (.error e, next) := by
  change ExceptT.bindCont q (p.exec state).1 (p.exec state).2 = _
  rcases p.exec state with ⟨e | a, next⟩ <;> rfl

@[simp] theorem exec_map (f : α → β) (p : Program ε s α) :
    (f <$> p).exec state = (f <$> (p.exec state).1, (p.exec state).2) := by
  rw [map_eq_pure_bind, exec_bind]
  rcases p.exec state with ⟨e | a, next⟩ <;> rfl

@[simp] theorem exec_ite [Decidable c] (p q : Program ε s α) :
    (if c then p else q).exec state = if c then p.exec state else q.exec state := by
  split <;> rfl

@[simp] theorem exec_adapt (f : ε → ε') (p : Program ε s α) :
    exec (ExceptT.adapt f p : Program ε' s α) state =
      ((p.exec state).1.mapError f, (p.exec state).2) := rfl

theorem exec_focus (part : s → t) (put : s → t → s) (p : Program ε t α) :
    (p.focus part put).exec state = ((p.exec (part state)).1, put state (p.exec (part state)).2) :=
  rfl

theorem exec_focus_settle {part : s → t} {put : s → t → s} {p : Program ε t Unit}
    {outcome : Except ε t} (h : p.exec (part state) = settle (part state) outcome)
    (hput : put state (part state) = state) :
    (p.focus part put).exec state = settle state (put state <$> outcome) := by
  rw [exec_focus, h]
  cases outcome with
  | ok next => rfl
  | error e => exact congrArg (Except.error e, ·) hput

theorem exec_checked_pure (x : Except ε Unit) (a : α) :
    (do x; return a : Program ε s α).exec state = ((do x; return a), state) := by
  cases x <;> rfl

theorem exec_checked (x : Except ε Unit) {p : Program ε s Unit}
    (hp : p.exec state = (.ok (), next)) :
    (do x; p : Program ε s Unit).exec state = settle state (do x; return next) := by
  cases x with
  | error e => rfl
  | ok => exact hp

end Program

-- ---------------------------------------------------------------------------
-- Sources
-- ---------------------------------------------------------------------------

class Device (σ : Type) [ByteSource σ] where
  read : ByteRange → Program Error σ Bytes
  write : Nat → Bytes → Program Error σ Unit
  exec_read (r : ByteRange) (s : σ) : (read r).exec s = (ByteSource.read s r, s)
  exec_write (offset : Nat) (new : Bytes) (s : σ) :
    (write offset new).exec s = settle s (ByteSource.write s offset new)

namespace Device

instance : Device Memory where
  read r := do
    let m ← get
    r.check m.bytes.size
    return m.bytes.extract r.offset (r.offset + r.length)
  write offset new := do
    let m ← get
    if !m.editable then throw .readOnly
    ByteRange.check ⟨offset, new.size⟩ m.bytes.size
    modify fun m => { m with bytes := m.bytes.overwrite offset new }
  exec_read r m := Program.exec_checked_pure (r.check m.bytes.size) _
  exec_write offset new m := by
    obtain ⟨bytes, editable, changed⟩ := m
    cases editable with
    | false => rfl
    | true =>
      exact Program.exec_checked (ByteRange.check ⟨offset, new.size⟩ bytes.size)
        (Program.exec_modify _)

instance : Device Mapped where
  read r := do
    let m ← get
    r.check m.bytes.size
    return m.slice r
  write _ _ := throw .readOnly
  exec_read r m := Program.exec_checked_pure (r.check m.bytes.size) _
  exec_write _ _ _ := rfl

instance : Device Scripted where
  read r := do
    let s ← get
    if s.failReads then throw (.source .read)
    return Array.ofFn fun i : Fin (if s.shortReads then r.length / 2 else r.length) =>
      Scripted.pattern (r.offset + i)
  write _ _ := do
    if (← get).failWrites then throw (.source .write)
  exec_read r s := by
    cases h : s.failReads <;> simp [ByteSource.read, h]
  exec_write offset new s := by
    cases h : s.failWrites <;> simp [ByteSource.write, h] <;> rfl

instance [ByteSource σ] [Device σ] : Device (Paged σ) where
  read r := do
    if (← get).isFetched r then
      Program.focus Paged.inner (fun p inner => { p with inner }) (Device.read r)
    else throw (.source (.notFetched r.offset r.stop))
  write offset new :=
    Program.focus Paged.inner (fun p inner => { p with inner }) (Device.write offset new)
  exec_read r s := by
    cases h : s.isFetched r with
    | false => simp [ByteSource.read, Paged.read, h]
    | true => simp [ByteSource.read, Paged.read, h, Program.exec_focus, Device.exec_read]
  exec_write offset new s := Program.exec_focus_settle (Device.exec_write offset new s.inner) rfl

/-- A program on one kind of source, run where that kind is installed. -/
def within (inject : τ → σ) (p : Program ε τ α) (t : τ) : Except ε α × σ :=
  ((p.exec t).1, inject (p.exec t).2)

theorem within_read [ByteSource τ] [Device τ] (inject : τ → σ) (r : ByteRange) (t : τ) :
    within inject (Device.read r) t = (ByteSource.read t r, inject t) := by
  simp only [within, Device.exec_read]

theorem within_write [ByteSource τ] [Device τ] (inject : τ → σ) (offset : Nat) (new : Bytes)
    (t : τ) :
    within inject (Device.write offset new) t =
      settle (inject t) (inject <$> ByteSource.write t offset new) := by
  simp only [within, Device.exec_write]
  cases ByteSource.write t offset new <;> rfl

instance : Device Source where
  read r := ExceptT.mk fun
    | .memory m => within .memory (Device.read r) m
    | .mapped m => within .mapped (Device.read r) m
    | .paged p => within .paged (Device.read r) p
    | .scripted s => within .scripted (Device.read r) s
    | .pagedScript p => within .pagedScript (Device.read r) p
  write offset new := ExceptT.mk fun
    | .memory m => within .memory (Device.write offset new) m
    | .mapped m => within .mapped (Device.write offset new) m
    | .paged p => within .paged (Device.write offset new) p
    | .scripted s => within .scripted (Device.write offset new) s
    | .pagedScript p => within .pagedScript (Device.write offset new) p
  exec_read r s := by
    cases s <;> exact within_read _ r _
  exec_write offset new s := by
    cases s <;> exact within_write _ offset new _

end Device

-- ---------------------------------------------------------------------------
-- Highlights
-- ---------------------------------------------------------------------------

namespace InPlace

def modifyLayer (layer : Nat) (f : Layer → Layer) : Program Error Layers Unit := do
  let ls ← get
  if ls.count ≤ layer then throw (.invalid (.noSuchLayer layer ls.count))
  modify fun ls => ⟨ls.layers.modify layer f⟩

def removeSpan (layer : Nat) (span : ByteRange) : Program Error Layers Unit := do
  if span.IsEmpty then throw (.invalid .emptySpan)
  modifyLayer layer (·.erase span)

def clearLayers : Option Nat → Program Error Layers Unit
  | some layer => modifyLayer layer fun _ => ⟨[]⟩
  | none => modify fun ls => ⟨ls.layers.map fun _ => ⟨[]⟩⟩

theorem exec_modifyLayer (layer : Nat) (f : Layer → Layer) (ls : Layers) :
    (modifyLayer layer f).exec ls = settle ls (ls.modify layer f) := by
  by_cases h : layer < ls.count
  · simp [modifyLayer, Layers.modify, h, Nat.not_le.mpr h, settle]
  · simp [modifyLayer, Layers.modify, h, Nat.not_lt.mp h, settle]

theorem exec_removeSpan (layer : Nat) (span : ByteRange) (ls : Layers) :
    (removeSpan layer span).exec ls = settle ls (ls.remove layer span) := by
  by_cases h : span.IsEmpty
  · simp [removeSpan, Layers.remove, h, settle]
  · simp [removeSpan, Layers.remove, h, exec_modifyLayer]

theorem exec_clearLayers (layer : Option Nat) (ls : Layers) :
    (clearLayers layer).exec ls = settle ls (ls.clear layer) := by
  cases layer with
  | none => rfl
  | some layer => exact exec_modifyLayer layer _ ls

-- ---------------------------------------------------------------------------
-- Views
-- ---------------------------------------------------------------------------

@[simp] def emit (event : Event) : Program ε (View σ) Unit :=
  modify (·.emit event)

@[simp] def emitSelection : Program ε (View σ) Unit := do
  let v ← get
  emit (.selectionChanged v.selection.start v.selection.length)
  emit .repaintRequested

def highlight (p : Program Error Layers Unit) : Program Error (View σ) Unit := do
  p.focus View.layers fun v layers => { v with layers }
  emit .repaintRequested

theorem exec_highlight {p : Program Error Layers Unit} (v : View σ)
    (h : p.exec v.layers = settle v.layers outcome) :
    (highlight p).exec v = settle v (v.setLayers <$> outcome) := by
  have hlayers : (p.focus View.layers fun v layers => { v with layers }).exec v = _ :=
    Program.exec_focus_settle h rfl
  rw [highlight, Program.exec_bind, hlayers]
  cases outcome <;> rfl

variable [ByteSource σ]

def layoutChanged : Program ε (View σ) Unit := do
  modify View.relayout
  modify View.ensureCaretVisible
  emit .layoutChanged
  emit .repaintRequested

@[simp] theorem exec_layoutChanged (v : View σ) :
    (layoutChanged : Program ε (View σ) Unit).exec v = (.ok (), v.layoutChanged) := rfl

def setLayout (layout : Layout) : Program Error (View σ) Unit := do
  layout.validate
  if layout ≠ (← get).layout then
    modify fun v => { v with layout }
    layoutChanged

theorem exec_setLayout (layout : Layout) (v : View σ) :
    (setLayout layout).exec v = settle v (v.setLayout layout) := by
  refine Program.exec_checked layout.validate ?_
  by_cases hsame : layout = v.layout <;> simp [hsame]

def changeLayout (f : Layout → Layout) : Program Error (View σ) Unit := do
  setLayout (f (← get).layout)

theorem exec_changeLayout (f : Layout → Layout) (v : View σ) :
    (changeLayout f).exec v = settle v (v.setLayout (f v.layout)) :=
  exec_setLayout (f v.layout) v

def setMetrics (metrics : Metrics) : Program Error (View σ) Unit := do
  metrics.validate
  if metrics ≠ (← get).metrics then
    modify fun v => { v with metrics }
    layoutChanged

theorem exec_setMetrics (metrics : Metrics) (v : View σ) :
    (setMetrics metrics).exec v = settle v (v.setMetrics metrics) := by
  refine Program.exec_checked metrics.validate ?_
  by_cases hsame : metrics = v.metrics <;> simp [hsame]

def setCaret (nibble : Nat) : Program Error (View σ) Unit := do
  let limit := (← get).selection.limit
  if limit < nibble then throw (.outOfRange (nibble / 2) (limit / 2))
  modify fun v => { v with selection := { v.selection with start := nibble } }
  modify fun v => { v with selection := { v.selection with length := 0 } }
  modify View.ensureCaretVisible
  emitSelection

theorem exec_setCaret (nibble : Nat) (v : View σ) :
    (setCaret nibble).exec v = settle v (v.setCaret nibble) := by
  by_cases hlimit : v.selection.limit < nibble <;>
    simp [setCaret, View.setCaret, Selection.setCaret, hlimit] <;> rfl

def goto (address : Nat) : Program Error (View σ) Unit := do
  let v ← get
  let base := v.layout.baseAddress
  let offset := if base ≤ address then address - base else address
  if v.length ≤ offset then throw (.outOfRange address v.length)
  if v.caret < 2 * v.length ∧ v.caretOffset = offset then
    modify View.ensureCaretVisible
    if (← get).viewport.firstRow ≠ v.viewport.firstRow then emit .repaintRequested
  else setCaret (v.grid.nibbleOfOffset offset)

theorem exec_goto (address : Nat) (v : View σ) :
    (goto address).exec v = settle v (v.goto address) := by
  simp only [goto, View.goto, Program.exec_bind, Program.exec_get]
  generalize (if v.layout.baseAddress ≤ address then address - v.layout.baseAddress else address) =
    offset
  by_cases hlength : v.length ≤ offset
  · simp [hlength, settle]
  by_cases hthere : v.caret < 2 * v.length ∧ v.caretOffset = offset
  · by_cases hrow : v.ensureCaretVisible.viewport.firstRow = v.viewport.firstRow <;>
      simp [hlength, hthere, View.revealCaret_eq, hrow, settle]
  · simp [hlength, hthere, exec_setCaret]

def setCurrentAddress (address : Nat) : Program Error (View σ) Unit := do
  let v ← get
  let base := v.layout.baseAddress
  if base ≤ address ∧ address - base ≤ v.length then
    setCaret (v.grid.nibbleOfOffset (address - base))
  else throw (.outOfRange address v.length)

theorem exec_setCurrentAddress (address : Nat) (v : View σ) :
    (setCurrentAddress address).exec v = settle v (v.setCurrentAddress address) := by
  simp only [setCurrentAddress, View.setCurrentAddress, Program.exec_bind, Program.exec_get,
    Program.exec_ite]
  split
  · exact exec_setCaret _ v
  · rfl

omit [ByteSource σ] in
def replaceSource (v : View σ) (s : σ) : View σ :=
  { v with source := some s }

omit [ByteSource σ] in
theorem replaceSource_self {v : View σ} (hs : v.source = some s) : replaceSource v s = v := by
  rw [replaceSource, ← hs]

def onSource (p : Program Error σ α) : Program Error (View σ) α := do
  match (← get).source with
  | none => throw (.invalid .noSource)
  | some s => p.focus (·.source.getD s) replaceSource

theorem typedByte_of_digit {v : View σ} (hpane : v.activePane ≠ .text)
    (hdigit : Hex.value? c = some digit) (s : σ) (offset : Nat) :
    v.typedByte s offset c =
      match ByteSource.read s ⟨offset, 1⟩ with
      | .error _ => .error .undefined
      | .ok bytes =>
        match bytes.toList with
        | [old] => .ok (setDigit old (v.caret % 2 = 0) digit)
        | _ => .error .undefined := by
  rw [View.typedByte, if_neg hpane, hdigit]
  rcases ByteSource.read s ⟨offset, 1⟩ with e | ⟨⟨_ | ⟨old, _ | ⟨next, rest⟩⟩⟩⟩ <;> rfl

variable [Device σ]

theorem exec_read {v : View σ} (hs : v.source = some s) (r : ByteRange) :
    (onSource (Device.read r)).exec v = (ByteSource.read s r, v) := by
  simp [onSource, hs, Program.exec_focus, Device.exec_read, replaceSource_self]

theorem exec_write {v : View σ} (hs : v.source = some s) (offset : Nat) (new : Bytes) :
    (onSource (Device.write offset new)).exec v =
    settle v (replaceSource v <$> ByteSource.write s offset new) := by
  simp only [onSource, hs, Program.exec_bind, Program.exec_get]
  apply Program.exec_focus_settle
  · simp [hs, Device.exec_write]
  · simp [hs, replaceSource_self]

def selectedData : Program Error (View σ) Bytes := do
  match (← get).selection.bytes? with
  | none => return #[]
  | some range => onSource (Device.read range)

theorem exec_selectedData (v : View σ) : selectedData.exec v = (v.selectedData, v) := by
  cases hrange : v.selection.bytes? with
  | none => simp [selectedData, View.selectedData, hrange]
  | some range =>
    cases hs : v.source with
    | none => simp [selectedData, View.selectedData, hrange, hs, onSource]
    | some s => simp [selectedData, View.selectedData, hrange, hs, exec_read hs]

def typedByte (offset : Nat) (c : Char) : Program Rejection (View σ) UInt8 := do
  let v ← get
  if v.activePane = .text then
    if c.toNat < 256 ∧ isPrintable c.toNat.toUInt8 then return c.toNat.toUInt8
    else throw .invalidChar
  else
    match Hex.value? c with
    | none => throw .invalidChar
    | some digit =>
      let bytes ← ExceptT.adapt (fun _ => .undefined) (onSource (Device.read ⟨offset, 1⟩))
      match bytes.toList with
      | [old] => return setDigit old (v.caret % 2 = 0) digit
      | _ => throw .undefined

theorem exec_typedByte {v : View σ} (hs : v.source = some s) (offset : Nat) (c : Char) :
    (typedByte offset c).exec v = (v.typedByte s offset c, v) := by
  by_cases hpane : v.activePane = .text
  · by_cases hc : c.toNat < 256 ∧ isPrintable c.toNat.toUInt8 <;>
      simp [typedByte, View.typedByte, hpane, hc]
  cases hdigit : Hex.value? c with
  | none => simp [typedByte, View.typedByte, hpane, hdigit]
  | some digit =>
    simp only [typedByte_of_digit hpane hdigit, typedByte, hpane, hdigit, exec_read hs,
      Program.exec_bind, Program.exec_get,
      Program.exec_adapt, if_false]
    rcases ByteSource.read s ⟨offset, 1⟩ with e | ⟨⟨_ | ⟨old, _ | ⟨next, rest⟩⟩⟩⟩ <;> rfl

def applyChar (c : Char) : Program Rejection (View σ) Edit := do
  let v ← get
  match v.source with
  | none => throw .noSource
  | some source =>
    if ¬ v.enabled then throw .disabled
    if v.poller.status = .undefined then throw .undefined
    if ¬ ByteSource.editable source then throw .readOnly
    if 2 * ByteSource.length source ≤ v.caret then throw .endOfData
    let value ← typedByte v.caretOffset c
    ExceptT.adapt (fun _ => .writeFailed) (onSource (Device.write v.caretOffset #[value]))
    return ⟨v.caretOffset, value⟩

theorem exec_applyChar (c : Char) (v : View σ) :
    (applyChar c).exec v =
      match v.applyChar c with
      | .ok (edit, s) => (.ok edit, replaceSource v s)
      | .error reason => (.error reason, v) := by
  cases hs : v.source with
  | none => simp [applyChar, View.applyChar, hs]
  | some s =>
    -- One reason after the other, in the order in which they are looked for; only the last of them
    -- comes from the source itself.
    by_cases henabled : v.enabled = false
    · simp [applyChar, View.applyChar, hs, henabled]
    by_cases hundefined : v.poller.status = .undefined
    · simp [applyChar, View.applyChar, hs, henabled, hundefined]
    by_cases heditable : ByteSource.editable s = false
    · simp [applyChar, View.applyChar, hs, henabled, hundefined, heditable]
    by_cases hend : 2 * ByteSource.length s ≤ v.caret
    · simp [applyChar, View.applyChar, hs, henabled, hundefined, heditable, hend]
    simp [applyChar, View.applyChar, hs, henabled, hundefined, heditable, hend,
      exec_typedByte hs v.caretOffset c]
    cases v.typedByte s v.caretOffset c with
    | error reason => rfl
    | ok value =>
      simp [exec_write hs]
      cases ByteSource.write s v.caretOffset #[value] <;> rfl

def typeChar (c : Char) : Program Rejection (View σ) Edit := do
  let edit ← applyChar c
  modify fun v => { v with selection := v.selection.moveBy v.horizontalStep false }
  modify View.ensureCaretVisible
  emit .dataChanged
  emitSelection
  return edit

theorem exec_typeChar (c : Char) (v : View σ) : (typeChar c).exec v = v.typeChar c := by
  simp only [typeChar, View.typeChar, Program.exec_bind, exec_applyChar]
  cases v.applyChar c with
  | error reason => rfl
  | ok edit => rfl

end InPlace

-- ---------------------------------------------------------------------------
-- All of them
-- ---------------------------------------------------------------------------

/-- A call that can fail, with what it fails with and what it answers. -/
inductive Attempt : Type → Type → Type
  | setLayout (layout : Layout) : Attempt Error Unit
  | setBytesPerRow (bytesPerRow : Nat) : Attempt Error Unit
  | setBytesPerColumn (bytesPerColumn : Nat) : Attempt Error Unit
  | setColumnSpacing (columnSpacing : Nat) : Attempt Error Unit
  | setAddressWidth (addressWidth : AddressWidth) : Attempt Error Unit
  | setFlipBytes (flipBytes : Bool) : Attempt Error Unit
  | setBaseAddress (baseAddress : Nat) : Attempt Error Unit
  | setMetrics (metrics : Metrics) : Attempt Error Unit
  | setCaret (nibble : Nat) : Attempt Error Unit
  | goto (address : Nat) : Attempt Error Unit
  | setCurrentAddress (address : Nat) : Attempt Error Unit
  | colorize (layer : Nat) (h : Highlight) : Attempt Error Unit
  | uncolorize (layer : Nat) (span : ByteRange) : Attempt Error Unit
  | uncolorizeAll (layer : Option Nat) : Attempt Error Unit
  | selectedData : Attempt Error Bytes
  | typeChar (c : Char) : Attempt Rejection Edit

namespace Attempt

variable [ByteSource σ]

def result (v : View σ) : Attempt ε α → Except ε α × View σ
  | setLayout layout => settle v (v.setLayout layout)
  | setBytesPerRow bytesPerRow => settle v (v.setBytesPerRow bytesPerRow)
  | setBytesPerColumn bytesPerColumn => settle v (v.setBytesPerColumn bytesPerColumn)
  | setColumnSpacing columnSpacing => settle v (v.setColumnSpacing columnSpacing)
  | setAddressWidth addressWidth => settle v (v.setAddressWidth addressWidth)
  | setFlipBytes flipBytes => settle v (v.setFlipBytes flipBytes)
  | setBaseAddress baseAddress => settle v (v.setBaseAddress baseAddress)
  | setMetrics metrics => settle v (v.setMetrics metrics)
  | setCaret nibble => settle v (v.setCaret nibble)
  | goto address => settle v (v.goto address)
  | setCurrentAddress address => settle v (v.setCurrentAddress address)
  | colorize layer h => settle v (v.colorize layer h)
  | uncolorize layer span => settle v (v.uncolorize layer span)
  | uncolorizeAll layer => settle v (v.uncolorizeAll layer)
  | selectedData => (v.selectedData, v)
  | typeChar c => v.typeChar c

theorem settle_of_error {outcome : Except ε s} (h : (settle state outcome).1 = .error e) :
    settle state outcome = (.error e, state) := by
  cases outcome with
  | ok => cases h
  | error => cases h; rfl

theorem result_of_error {v : View σ} {a : Attempt ε α} (h : (a.result v).1 = .error e) :
    a.result v = (.error e, v) := by
  cases a with
  | selectedData => exact Prod.ext h rfl
  | typeChar c =>
    simp only [result, View.typeChar] at h ⊢
    cases hc : v.applyChar c with
    | ok => simp [hc] at h
    | error reason =>
      simp only [hc] at h ⊢
      rw [h]
  | _ => exact settle_of_error h

variable [Device σ]

def perform : Attempt ε α → Program ε (View σ) α
  | setLayout layout => InPlace.setLayout layout
  | setBytesPerRow bytesPerRow => InPlace.changeLayout ({ · with bytesPerRow })
  | setBytesPerColumn bytesPerColumn => InPlace.changeLayout ({ · with bytesPerColumn })
  | setColumnSpacing columnSpacing => InPlace.changeLayout ({ · with columnSpacing })
  | setAddressWidth addressWidth => InPlace.changeLayout ({ · with addressWidth })
  | setFlipBytes flipBytes => InPlace.changeLayout ({ · with flipBytes })
  | setBaseAddress baseAddress => InPlace.changeLayout ({ · with baseAddress })
  | setMetrics metrics => InPlace.setMetrics metrics
  | setCaret nibble => InPlace.setCaret nibble
  | goto address => InPlace.goto address
  | setCurrentAddress address => InPlace.setCurrentAddress address
  | colorize layer h => InPlace.highlight (InPlace.modifyLayer layer (·.insert h))
  | uncolorize layer span => InPlace.highlight (InPlace.removeSpan layer span)
  | uncolorizeAll layer => InPlace.highlight (InPlace.clearLayers layer)
  | selectedData => InPlace.selectedData
  | typeChar c => InPlace.typeChar c

/-- Store by store, a call ends as it does in one step. -/
theorem exec_perform (a : Attempt ε α) (v : View σ) : a.perform.exec v = a.result v := by
  cases a with
  | setLayout layout => exact InPlace.exec_setLayout layout v
  | setBytesPerRow bytesPerRow => exact InPlace.exec_changeLayout ({ · with bytesPerRow }) v
  | setBytesPerColumn bytesPerColumn =>
    exact InPlace.exec_changeLayout ({ · with bytesPerColumn }) v
  | setColumnSpacing columnSpacing => exact InPlace.exec_changeLayout ({ · with columnSpacing }) v
  | setAddressWidth addressWidth => exact InPlace.exec_changeLayout ({ · with addressWidth }) v
  | setFlipBytes flipBytes => exact InPlace.exec_changeLayout ({ · with flipBytes }) v
  | setBaseAddress baseAddress => exact InPlace.exec_changeLayout ({ · with baseAddress }) v
  | setMetrics metrics => exact InPlace.exec_setMetrics metrics v
  | setCaret nibble => exact InPlace.exec_setCaret nibble v
  | goto address => exact InPlace.exec_goto address v
  | setCurrentAddress address => exact InPlace.exec_setCurrentAddress address v
  | colorize layer h => exact InPlace.exec_highlight v (InPlace.exec_modifyLayer layer _ v.layers)
  | uncolorize layer span =>
    exact InPlace.exec_highlight v (InPlace.exec_removeSpan layer span v.layers)
  | uncolorizeAll layer => exact InPlace.exec_highlight v (InPlace.exec_clearLayers layer v.layers)
  | selectedData => exact InPlace.exec_selectedData v
  | typeChar c => exact InPlace.exec_typeChar c v

end Attempt

/-- Whatever its source, a call that fails has changed nothing of the view or the source when it
does. -/
theorem attempt_atomic (a : Attempt ε α) (v : View Source) :
    a.perform.exec v = a.result v ∧ ∀ e, (a.result v).1 = .error e →
      a.perform.exec v = (.error e, v) := by
  refine ⟨a.exec_perform v, fun e h => ?_⟩
  rw [a.exec_perform v]
  exact Attempt.result_of_error h

/-- A write that fails when the other digit has been read, and an address that is refused because
the source has grown unnoticed. -/
theorem attempt_atomic_late :
    let device : Source :=
      .pagedScript { inner := { length := 4, editable := true, failWrites := true },
                     fetched := [0] }
    let short : Source := .memory { bytes := #[1, 2] }
    let v : View Source := (Call.install device).apply {}
    let grown : View Source :=
      { (Call.install short).apply {} with source := some (.memory { bytes := #[1, 2, 3, 4] }) }
    (Attempt.typeChar '7').perform.exec v = (.error .writeFailed, v) ∧
      (Attempt.goto 3).perform.exec grown = (.error (.outOfRange 3 2), grown) :=
  ⟨(attempt_atomic _ _).2 _ rfl, (attempt_atomic _ _).2 _ rfl⟩

end HexEditor
