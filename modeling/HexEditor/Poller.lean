import HexEditor.Source

/-!
# Asking again for missing bytes

Drawing never waits. When the bytes on screen are missing, the status becomes `undefined` and a poll
is armed, due one interval later; when it is due the source is asked again, until the bytes are
there or the source gives up. Times are in milliseconds.
-/

namespace HexEditor

/-- Whether the bytes on screen can be drawn. -/
inductive Status
  | defined
  | undefined
deriving DecidableEq, Repr, Inhabited

def Status.name : Status → String
  | defined => "Defined"
  | undefined => "Undefined"

structure Poll where
  region : ByteRange
  due : Nat
deriving DecidableEq, Repr

structure Poller where
  status : Status := .defined
  poll : Option Poll := none
  interval : Nat := 1000
deriving DecidableEq, Repr, Inhabited

namespace Poller

def reset (p : Poller) : Poller :=
  { p with status := .defined, poll := none }

def miss (p : Poller) (region : ByteRange) (now : Nat) : Poller :=
  { p with status := .undefined, poll := some ⟨region, now + p.interval⟩ }

def nextPollIn (p : Poller) (now : Nat) : Option Nat :=
  p.poll.map fun poll => poll.due - now

variable [Probe π]

/-- Whether a region can be drawn. While the status is undefined only polls ask. -/
def check (p : Poller) (probe : π) (region : ByteRange) (now : Nat) : Bool × Poller × π :=
  if p.status = .undefined then (false, p, probe)
  else if region.IsEmpty then (true, p, probe)
  else
    let (answer, probe) := Probe.request probe region
    if answer then (true, p, probe) else (false, p.miss region now, probe)

/-- Poll now; the answer says whether the status changed. -/
def pollNow (p : Poller) (probe : π) (now : Nat) : Bool × Poller × π :=
  match p.poll with
  | none => (false, p, probe)
  | some poll =>
    let (answer, probe) := Probe.request probe poll.region
    if answer then (true, { p with status := .defined, poll := none }, probe)
    else if Probe.keepsTrying probe then
      (false, { p with poll := some { poll with due := now + p.interval } }, probe)
    else (false, { p with poll := none }, probe)

def tick (p : Poller) (probe : π) (now : Nat) : Bool × Poller × π :=
  match p.poll with
  | some poll => if poll.due ≤ now then p.pollNow probe now else (false, p, probe)
  | none => (false, p, probe)

end Poller

/-- The bytes of a region, if they can be drawn. A read that fails although the bytes were said to
be there counts as missing. -/
def Poller.fetch [ByteSource σ] (p : Poller) (source : σ) (region : ByteRange) (now : Nat) :
    Option Bytes × Poller × σ :=
  match p.check source region now with
  | (false, p, source) => (none, p, source)
  | (true, p, source) =>
    if region.IsEmpty then (some #[], p, source)
    else
      match ByteSource.read source region with
      | .ok data => (some data, p, source)
      | .error _ => (none, p.miss region now, source)

end HexEditor
