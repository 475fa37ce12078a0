import HexEditor.Window.Target

/-!
# The pointer

Where the pointer is, and what its button holds. A press takes hold of the part that it hits, for a
click and for a drag. It turns into a drag once the pointer is away from where it began, and at once
for a part that takes no clicks.
-/

namespace HexEditor

inductive PointerEvent
  | move (p : Point)
  | press (p : Point)
  | release (p : Point)
  /-- The pointer leaves the window. -/
  | leave
deriving DecidableEq, Repr

structure Pointer where
  position : Option Point := none
  /-- Where it was last. -/
  seen : Option Point := none
  /-- The button is down. -/
  down : Bool := false
  /-- Where it went down. -/
  origin : Option Point := none
  /-- The pointer has been too far from there for a click. -/
  strayed : Bool := false
deriving DecidableEq, Repr

namespace Pointer

/-- How far the pointer moves before a press is no click any more. -/
def clickDistance : Rat := 6

variable (p : Pointer)

def moveTo (point : Point) : Pointer :=
  { p with
    position := some point
    seen := some point
    strayed := p.strayed || p.origin.any fun origin =>
      square clickDistance < point.distanceSq origin }

def step : PointerEvent → Pointer
  | .move point => p.moveTo point
  | .press point =>
    { position := some point, seen := some point, down := true, origin := some point }
  | .release point =>
    { p with position := some point, seen := some point, down := false, origin := none }
  | .leave => { p with position := none }

end Pointer

structure Grip where
  click : Option Part := none
  drag : Option Part := none
  /-- The part that is being dragged. -/
  dragged : Option Part := none
deriving DecidableEq, Repr

/-- What pointer and button do to the parts in one frame. -/
structure Touch where
  position : Option Point := none
  /-- Where the pointer acts; it is there for one more frame when it has left. -/
  contact : Option Point := none
  down : Bool := false
  pressed : Bool := false
  released : Bool := false
  clicked : Option Part := none
  /-- The part whose drag has just ended. -/
  dropped : Option Part := none
  grip : Grip := {}
  hits : Hits := {}
deriving DecidableEq, Repr

namespace Touch

variable (t : Touch) (part : Part)

def holds : Bool :=
  !t.released && (t.grip.click = some part || t.grip.drag = some part)

def concerns : Bool :=
  t.holds part || t.clicked = some part || t.dropped = some part

/-- The pointer is on a part. While the button holds another one it is on none. -/
def hovers : Bool :=
  let shown :=
    if t.clicked.isSome ∨ t.grip.dragged.isSome then t.clicked = some part || t.grip.dragged =
      some part
    else t.hits.click = some part || t.hits.drag = some part || part ∈ t.hits.idle
  shown && (!t.down || t.concerns part)

def drags : Bool :=
  !t.released && t.grip.dragged = some part

def contactOn : Option Point :=
  if t.concerns part then t.contact else none

def turnsFrom : Bool :=
  t.pressed && !t.hovers part

end Touch

namespace Grip

/-- A part that waits for a click is dragged only when that can no longer come. -/
def startsDrag (targets : List Target) (p : Pointer) (pressed : Bool) (part : Part) : Bool :=
  (targets.find? (·.part = part)).any fun t =>
    t.drags && (!t.clicks || (p.down && !pressed && p.strayed))

/-- One frame of pointer and button over the parts of the last frame. Escape ends a drag. -/
def touch (g : Grip) (targets : List Target) (old p : Pointer) (event : Option PointerEvent)
    (escape : Bool) : Touch :=
  let pressed := event matches some (.press _)
  let released := event matches some (.release _)
  let contact := if event = some .leave then old.position else p.position
  let hits := (contact.map (Target.hits targets)).getD {}
  let present (part : Part) : Bool := targets.any (·.part = part)
  let click := g.click.filter present
  let dragged := if escape ∨ released then none else g.dragged
  let drag := if escape ∨ released then none else g.drag
  let drag := if pressed then drag.orElse fun _ => hits.drag else drag
  let clicked := if released ∧ ¬ p.strayed then click else none
  let click := if pressed then click.orElse fun _ => hits.click else click
  let dragged := dragged.orElse fun _ => drag.filter (startsDrag targets p pressed)
  let keep := p.down ∧ p.position.isSome
  { position := p.position, contact, down := p.down, pressed, released, clicked, hits
    dropped := if dragged = g.dragged then none else g.dragged
    grip := {
      click := if keep ∧ ¬ p.strayed then click else none
      drag := if keep then drag else none
      dragged } }

end Grip

end HexEditor
