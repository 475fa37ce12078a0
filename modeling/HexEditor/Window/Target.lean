import HexEditor.Window.Region

/-!
# What the pointer hits

Parts of the window take clicks, drags or both. The pointer hits the part that it is on or, if there
is none, one close by. A part in a layer above hides those below it.
-/

namespace HexEditor

inductive Part
  /-- A menu of the menu bar, by its place. -/
  | menu (index : Nat)
  /-- The lines of an open menu as such. -/
  | popup
  /-- A line of an open menu. -/
  | entry (menu line : Nat)
  /-- The stack panel, which takes nothing but the wheel. -/
  | stack
  /-- Edge of the stack panel, which sets its width. -/
  | stackEdge
  | grid
  | scrollBar
  /-- The go-to dialog as such. -/
  | dialog
  /-- The field for the address in the go-to dialog. -/
  | field
  | goButton
  | cancelButton
  /-- Title of the go-to dialog. -/
  | title
deriving DecidableEq, Repr

structure Target where
  part : Part
  region : Region
  /-- Higher layers are in front. -/
  layer : Nat := 0
  clicks : Bool := false
  drags : Bool := false
deriving DecidableEq, Repr

/-- What a press of the button would click and what it would drag. -/
structure Hits where
  click : Option Part := none
  drag : Option Part := none
  /-- Parts under the pointer that take neither. -/
  idle : List Part := []
deriving DecidableEq, Repr

namespace Target

def reach : Rat := 5

def interactive (t : Target) : Bool :=
  t.clicks || t.drags

/-- A thin part keeps the pointer to itself although a thick one is in front of it. -/
def Outranks (back front : Target) : Prop :=
  ¬ front.region.Covers back.region ∧ back.region.thickness ≤ front.region.thickness / 2 ∧
    back.region.thickness ≤ 16

instance (back front : Target) : Decidable (back.Outranks front) :=
  inferInstanceAs (Decidable (_ ∧ _ ∧ _))

/-- The closest one, of those that are equally close the one in front. -/
def closest (p : Point) (targets : List Target) : Option Target :=
  targets.foldl
    (fun best t =>
      match best with
      | none => some t
      | some b =>
        let (d, e) := (t.region.distanceSq p, b.region.distanceSq p)
        if e < d ∨ (d = e ∧ b.Outranks t) then some b else some t)
    none

def directly (p : Point) (targets : List Target) : Option Target :=
  closest p (targets.filter (·.region.Contains p))

/-- Layers down to the first part, from the front, that leaves no room around the pointer. -/
def openLayers (p : Point) : List Target → List Nat
  | [] => []
  | t :: behind =>
    if (t.region.inset reach).Contains p then [t.layer] else t.layer :: openLayers p behind

def near (p : Point) (targets : List Target) : List Target :=
  let close := targets.filter fun t => ¬ t.region.IsNegative ∧ t.region.distanceSq p ≤ square reach
  let layers := openLayers p close.reverse
  let shown := close.filter (·.layer ∈ layers)
  shown.filter fun t => ¬ shown.any fun front => t.layer < front.layer ∧
    front.region.Covers t.region

def hitsAmong (p : Point) (close : List Target) : Option Target × Option Target :=
  let clickable := close.filter (·.clicks)
  let draggable := close.filter (·.drags)
  match directly p clickable, directly p draggable with
  | none, none =>
    match closest p (close.filter (·.interactive)) with
    | some t => (if t.clicks then some t else none, if t.drags then some t else none)
    | none => (none, none)
  | none, some drag =>
    match closest p clickable with
    | some click =>
      if drag.region.Covers click.region then
        (some click, some (if click.drags then click else drag))
      else (none, some drag)
    | none =>
      match closest p (draggable.filter (·.part ≠ drag.part)) with
      | some other => (none, some (if drag.region.Covers other.region then other else drag))
      | none => (none, some drag)
  | some click, none => (some click, none)
  | some click, some drag =>
    if close.idxOf drag < close.idxOf click then
      (some click, some (if click.drags then click else drag))
    else (if drag.clicks then some drag else none, some drag)

/-- What the pointer hits at a point; the parts behind come first. -/
def hits (targets : List Target) (p : Point) : Hits :=
  let close := near p targets
  let (click, drag) := hitsAmong p close
  { click := click.map (·.part)
    drag := drag.map (·.part)
    idle := (close.filter fun t => !t.interactive ∧ t.region.Contains p).map (·.part) }

end Target

end HexEditor
