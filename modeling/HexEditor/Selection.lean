import HexEditor.Error
import HexEditor.Offset

/-!
# Caret and selection

Measured in nibbles. The selection runs from its anchor `start` to the caret, backwards when
`length` is negative; both ends stay within `[0, limit]`, and `limit` is twice the length of the
data.
-/

namespace HexEditor

structure Selection where
  start : Nat := 0
  length : Int := 0
  limit : Nat := 0
deriving DecidableEq, Repr, Inhabited

namespace Selection

def empty (limit : Nat) : Selection :=
  { limit }

def caret (s : Selection) : Nat :=
  Offset.shift s.start s.length

def IsEmpty (s : Selection) : Prop :=
  s.length = 0

instance (s : Selection) : Decidable s.IsEmpty :=
  inferInstanceAs (Decidable (_ = _))

/-- The nibble within the limits that is nearest to `nibble`. -/
def clamp (s : Selection) (nibble : Int) : Nat :=
  min nibble.toNat s.limit

def reach (s : Selection) (caret : Nat) : Selection :=
  { s with length := Offset.distance s.start caret }

def collapse (s : Selection) (nibble : Nat) : Selection :=
  { s with start := nibble, length := 0 }

/-- Move the caret by `delta` nibbles, keeping the anchor if `extend` is set. -/
def moveBy (s : Selection) (delta : Int) (extend : Bool) : Selection :=
  let target := s.clamp (s.caret + delta)
  if extend then s.reach target else s.collapse target

def setCaret (s : Selection) (nibble : Nat) : Except Error Selection :=
  if s.limit < nibble then .error (.outOfRange (nibble / 2) (s.limit / 2))
  else .ok (s.collapse nibble)

def setLength (s : Selection) (length : Int) : Selection :=
  s.reach (s.clamp (s.start + length))

def extendTo (s : Selection) (nibble : Nat) : Selection :=
  s.reach (s.clamp nibble)

/-- Change the limit and pull both ends inside. -/
def setLimit (s : Selection) (limit : Nat) : Selection :=
  reach { s with start := min s.start limit, limit } (min s.caret limit)

def span (s : Selection) : Nat × Nat :=
  (min s.start s.caret, max s.start s.caret)

def firstByte (s : Selection) : Nat :=
  s.span.1 / 2

def lastByte (s : Selection) : Nat :=
  divUp s.span.2 2

def bytes? (s : Selection) : Option ByteRange :=
  if s.IsEmpty then none else some ⟨s.firstByte, s.lastByte - s.firstByte⟩

/-- Whether the cell at a position is drawn as selected. -/
def Selects (s : Selection) (position : Nat) : Prop :=
  ¬ s.IsEmpty ∧ s.span.1 / 2 ≤ position ∧ 2 * position < s.span.2

instance (s : Selection) (position : Nat) : Decidable (s.Selects position) :=
  inferInstanceAs (Decidable (_ ∧ _))

end Selection

end HexEditor
