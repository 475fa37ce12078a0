import HexEditor.Error
import HexEditor.Offset

/-!
# Sources

Where the bytes come from. A source may be slow: it is asked first whether a range can be read, and
the asking may start a fetch, so it returns the source that follows.

A buffer in memory and a mapped file have all their bytes at once. The file is read-only and follows
what is written to it; the buffer may accept edits, and may be replaced as a whole.

A scripted source stands in for a device: whether bytes are there is answered from a list, whatever
the range, and reads and writes may be told to fail. Its bytes follow a fixed pattern.

Of a remote source only pages that have been fetched can be read. Asking for a page that is missing
requests it; a requested page arrives on its own after `latency` further requests that touch it, or,
without a latency, when the owner delivers what is pending.
-/

namespace HexEditor

class Probe (π : Type) where
  /-- Whether a range can be read right now. -/
  request : π → ByteRange → Bool × π
  /-- Whether missing bytes may still arrive. -/
  keepsTrying : π → Bool

class ByteSource (σ : Type) extends Probe σ where
  length : σ → Nat
  read : σ → ByteRange → Except Error Bytes
  /-- Overwrite the bytes from an offset on. -/
  write : σ → Nat → Bytes → Except Error σ
  editable : σ → Bool
  /-- Whether the content changed behind the viewer's back since the last time this was asked. -/
  takeChange : σ → Bool × σ

def ByteRange.check (r : ByteRange) (total : Nat) : Except Error Unit :=
  if r.Within total then .ok () else .error (.outOfRange r.stop total)

-- ---------------------------------------------------------------------------
-- Memory and mapped files
-- ---------------------------------------------------------------------------

def Bytes.overwrite (bs : Bytes) (offset : Nat) (new : Bytes) : Bytes :=
  bs.mapIdx fun i b => if offset ≤ i then new.getD (i - offset) b else b

structure Memory where
  bytes : Bytes
  editable : Bool := false
  changed : Bool := false
deriving DecidableEq, Repr, Inhabited

namespace Memory

/-- New content, as after the program under inspection has run. -/
def replace (m : Memory) (bytes : Bytes) : Memory :=
  { m with bytes, changed := true }

def read (m : Memory) (r : ByteRange) : Except Error Bytes := do
  r.check m.bytes.size
  return m.bytes.extract r.offset (r.offset + r.length)

def write (m : Memory) (offset : Nat) (new : Bytes) : Except Error Memory := do
  if !m.editable then throw .readOnly
  ByteRange.check ⟨offset, new.size⟩ m.bytes.size
  return { m with bytes := m.bytes.overwrite offset new }

instance : ByteSource Memory where
  request m r := (decide (r.Within m.bytes.size), m)
  keepsTrying _ := true
  length m := m.bytes.size
  read := read
  write := write
  editable := editable
  takeChange m := (m.changed, { m with changed := false })

end Memory

structure Mapped where
  bytes : Bytes
  /-- Name of the file, if it can be written to meanwhile. -/
  file : Option String := none
deriving DecidableEq, Repr, Inhabited

namespace Mapped

def slice (m : Mapped) (r : ByteRange) : Bytes :=
  m.bytes.extract r.offset r.stop

/-- The file has new content. The map keeps its size: more is not seen, and what is missing reads as
zero. -/
def follow (m : Mapped) (content : Bytes) : Mapped :=
  { m with bytes := content.extract 0 m.bytes.size ++
    Array.replicate (m.bytes.size - content.size) 0 }

instance : ByteSource Mapped where
  request m r := (decide (r.Within m.bytes.size), m)
  keepsTrying _ := true
  length m := m.bytes.size
  read m r := do
    r.check m.bytes.size
    return m.slice r
  write _ _ _ := .error .readOnly
  editable _ := false
  takeChange m := (false, m)

end Mapped

-- ---------------------------------------------------------------------------
-- Scripts
-- ---------------------------------------------------------------------------

/-- Answers given one after the other; when they have run out, the last one is repeated. -/
structure Script where
  answers : List Bool := []
  last : Bool := true
deriving DecidableEq, Repr, Inhabited

def Script.next (s : Script) : Bool × Script :=
  match s.answers with
  | [] => (s.last, s)
  | answer :: rest => (answer, ⟨rest, answer⟩)

structure Scripted where
  length : Nat := 0
  script : Script := {}
  givesUp : Bool := false
  editable : Bool := false
  failReads : Bool := false
  /-- Reads give half of what was asked for. -/
  shortReads : Bool := false
  failWrites : Bool := false
deriving DecidableEq, Repr, Inhabited

namespace Scripted

def pattern (offset : Nat) : UInt8 :=
  (7 * offset + 3).toUInt8

instance : ByteSource Scripted where
  request s _ :=
    let (answer, script) := s.script.next
    (answer, { s with script })
  keepsTrying s := !s.givesUp
  length := length
  read s r :=
    if s.failReads then .error (.source .read)
    else
      let count := if s.shortReads then r.length / 2 else r.length
      .ok (Array.ofFn fun i : Fin count => pattern (r.offset + i))
  write s _ _ := if s.failWrites then .error (.source .write) else .ok s
  editable := editable
  takeChange s := (false, s)

end Scripted

-- ---------------------------------------------------------------------------
-- Pages of a remote source
-- ---------------------------------------------------------------------------

structure Paged (σ : Type) where
  inner : σ
  fetched : List Nat := []
  /-- Requested pages, with the number of requests before each arrives. -/
  pending : List (Nat × Nat) := []
  latency : Option Nat := none
  /-- The remote end is gone: what is missing will never arrive. -/
  detached : Bool := false
  changed : Bool := false
deriving DecidableEq, Repr

namespace Paged

def pageSize : Nat := 256

/-- First page of a range, and the number of pages that it touches. -/
def pageSpan (r : ByteRange) : Nat × Nat :=
  if r.IsEmpty then (0, 0)
  else (r.offset / pageSize, divUp r.stop pageSize - r.offset / pageSize)

def pages (r : ByteRange) : List Nat :=
  List.range' (pageSpan r).1 (pageSpan r).2

def allIn (known : List Nat) (first : Nat) : Nat → Bool
  | 0 => true
  | count + 1 => known.contains first && allIn known (first + 1) count

def isFetched (s : Paged σ) (r : ByteRange) : Bool :=
  allIn s.fetched (pageSpan r).1 (pageSpan r).2

/-- Requests a page, or brings it one request closer if it is pending already. -/
def touch (s : Paged σ) (page : Nat) : Paged σ :=
  if s.fetched.contains page then s
  else
    match s.pending.lookup page, s.latency with
    | none, latency => { s with pending := (page, latency.getD 0xFFFFFFFF) :: s.pending }
    | some _, none => s
    | some left, some _ =>
      let others := s.pending.filter (·.1 ≠ page)
      if left ≤ 1 then { s with pending := others, fetched := page :: s.fetched }
      else { s with pending := (page, left - 1) :: others }

def fetchPending (s : Paged σ) : Paged σ :=
  if s.detached then s
  else { s with fetched := s.pending.map (·.1) ++ s.fetched, pending := [], changed := true }

def deliver (s : Paged σ) (page : Nat) : Paged σ :=
  { s with
    pending := s.pending.filter (·.1 ≠ page)
    fetched := if s.fetched.contains page then s.fetched else page :: s.fetched }

def prefetch (s : Paged σ) (r : ByteRange) : Paged σ :=
  (pages r).foldl deliver s

def detach (s : Paged σ) : Paged σ :=
  { s with detached := true, pending := [] }

variable [ByteSource σ]

def request (s : Paged σ) (r : ByteRange) : Bool × Paged σ :=
  if ¬ r.Within (ByteSource.length s.inner) then (false, s)
  else if s.detached then (s.isFetched r, s)
  else
    let s := (pages r).foldl touch s
    if s.isFetched r then
      let (answer, inner) := Probe.request s.inner r
      (answer, { s with inner })
    else (false, s)

def read (s : Paged σ) (r : ByteRange) : Except Error Bytes :=
  if s.isFetched r then ByteSource.read s.inner r
  else .error (.source (.notFetched r.offset r.stop))

instance : ByteSource (Paged σ) where
  request := request
  keepsTrying s := !s.detached && Probe.keepsTrying s.inner
  length s := ByteSource.length s.inner
  read := read
  write s offset new := do return { s with inner := ← ByteSource.write s.inner offset new }
  editable s := ByteSource.editable s.inner
  takeChange s :=
    let (innerChanged, inner) := ByteSource.takeChange s.inner
    (s.changed || innerChanged, { s with inner, changed := false })

end Paged

-- ---------------------------------------------------------------------------
-- Any of them
-- ---------------------------------------------------------------------------

inductive Source
  | memory (m : Memory)
  | mapped (m : Mapped)
  | paged (p : Paged Memory)
  | scripted (s : Scripted)
  | pagedScript (p : Paged Scripted)
deriving DecidableEq, Repr

namespace Source

instance : ByteSource Source where
  request
    | memory m, r => let (answer, m) := Probe.request m r; (answer, memory m)
    | mapped m, r => let (answer, m) := Probe.request m r; (answer, mapped m)
    | paged p, r => let (answer, p) := Probe.request p r; (answer, paged p)
    | scripted s, r => let (answer, s) := Probe.request s r; (answer, scripted s)
    | pagedScript p, r => let (answer, p) := Probe.request p r; (answer, pagedScript p)
  keepsTrying
    | memory m => Probe.keepsTrying m
    | mapped m => Probe.keepsTrying m
    | paged p => Probe.keepsTrying p
    | scripted s => Probe.keepsTrying s
    | pagedScript p => Probe.keepsTrying p
  length
    | memory m => ByteSource.length m
    | mapped m => ByteSource.length m
    | paged p => ByteSource.length p
    | scripted s => ByteSource.length s
    | pagedScript p => ByteSource.length p
  read
    | memory m => ByteSource.read m
    | mapped m => ByteSource.read m
    | paged p => ByteSource.read p
    | scripted s => ByteSource.read s
    | pagedScript p => ByteSource.read p
  write
    | memory m, offset, new => memory <$> ByteSource.write m offset new
    | mapped m, offset, new => mapped <$> ByteSource.write m offset new
    | paged p, offset, new => paged <$> ByteSource.write p offset new
    | scripted s, offset, new => scripted <$> ByteSource.write s offset new
    | pagedScript p, offset, new => pagedScript <$> ByteSource.write p offset new
  editable
    | memory m => ByteSource.editable m
    | mapped m => ByteSource.editable m
    | paged p => ByteSource.editable p
    | scripted s => ByteSource.editable s
    | pagedScript p => ByteSource.editable p
  takeChange
    | memory m => let (change, m) := ByteSource.takeChange m; (change, memory m)
    | mapped m => let (change, m) := ByteSource.takeChange m; (change, mapped m)
    | paged p => let (change, p) := ByteSource.takeChange p; (change, paged p)
    | scripted s => let (change, s) := ByteSource.takeChange s; (change, scripted s)
    | pagedScript p => let (change, p) := ByteSource.takeChange p; (change, pagedScript p)

end Source

end HexEditor
