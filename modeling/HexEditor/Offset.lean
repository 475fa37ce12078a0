/-!
# Offsets, ranges and pixels

Offsets, addresses and nibble indices are natural numbers below `2 ^ 64`; pixel coordinates are
integers. The functions here are the places where the width of a machine word shows: sums that stop
at the top, addresses that run over to zero, and words that are read as signed numbers.
-/

namespace HexEditor

def divUp (a b : Nat) : Nat :=
  (a + b - 1) / b

/-- A 32-bit count read as a signed pixel measure: from `2 ^ 31` on it is negative. -/
def pixels (n : Nat) : Int :=
  (BitVec.ofNat 32 n).toInt

/-- A pixel measure as a 32-bit word: one that is too large or too small wraps around. -/
def wrapPixels (x : Int) : Int :=
  (BitVec.ofInt 32 x).toInt

namespace Offset

def top : Nat :=
  0xFFFFFFFFFFFFFFFF

def add (a b : Nat) : Nat :=
  min (a + b) top

def wrapAdd (a b : Nat) : Nat :=
  (a + b) % 0x10000000000000000

/-- An offset moved by a signed distance, stopping at both ends. -/
def shift (a : Nat) (distance : Int) : Nat :=
  min (a + distance).toNat top

/-- The signed way from one offset to another, as a 64-bit word: one of `2 ^ 63` or more wraps
around. -/
def distance (a b : Nat) : Int :=
  (BitVec.ofNat 64 b - BitVec.ofNat 64 a).toInt

def ofInt (i : Int) : Nat :=
  (i % 0x10000000000000000).toNat

end Offset

-- ---------------------------------------------------------------------------
-- Ranges
-- ---------------------------------------------------------------------------

structure ByteRange where
  offset : Nat
  length : Nat
deriving DecidableEq, Repr

namespace ByteRange

/-- First offset after the range; a range that would pass the largest offset ends there. -/
def stop (r : ByteRange) : Nat :=
  Offset.add r.offset r.length

def IsEmpty (r : ByteRange) : Prop :=
  r.length = 0

def Contains (r : ByteRange) (offset : Nat) : Prop :=
  r.offset ≤ offset ∧ offset < r.stop

def Overlaps (r s : ByteRange) : Prop :=
  r.offset < s.stop ∧ s.offset < r.stop

def Includes (r s : ByteRange) : Prop :=
  r.offset ≤ s.offset ∧ s.stop ≤ r.stop

instance (r : ByteRange) : Decidable r.IsEmpty :=
  inferInstanceAs (Decidable (_ = _))

instance (r : ByteRange) (offset : Nat) : Decidable (r.Contains offset) :=
  inferInstanceAs (Decidable (_ ∧ _))

instance (r s : ByteRange) : Decidable (r.Overlaps s) :=
  inferInstanceAs (Decidable (_ ∧ _))

instance (r s : ByteRange) : Decidable (r.Includes s) :=
  inferInstanceAs (Decidable (_ ∧ _))

def Within (r : ByteRange) (total : Nat) : Prop :=
  r.stop ≤ total ∧ r.offset ≤ total

instance (r : ByteRange) (total : Nat) : Decidable (r.Within total) :=
  inferInstanceAs (Decidable (_ ∧ _))

end ByteRange

-- ---------------------------------------------------------------------------
-- Rectangles
-- ---------------------------------------------------------------------------

/-- Pixel rectangle, relative to the top left corner of the drawing area. -/
structure Rect where
  x : Int
  y : Int
  width : Int
  height : Int
deriving DecidableEq, Repr

namespace Rect

/-- Stands for the place of something that is not on screen. -/
def nowhere : Rect := ⟨-1, -1, -1, -1⟩

def IsEmpty (r : Rect) : Prop :=
  r.width ≤ 0 ∨ r.height ≤ 0

instance (r : Rect) : Decidable r.IsEmpty :=
  inferInstanceAs (Decidable (_ ∨ _))

/-- Halves are rounded toward zero, also those of negative sizes. -/
def center (r : Rect) : Int × Int :=
  (r.x + r.width.tdiv 2, r.y + r.height.tdiv 2)

def Contains (r : Rect) (x y : Int) : Prop :=
  ¬ r.IsEmpty ∧ r.x ≤ x ∧ x < r.x + r.width ∧ r.y ≤ y ∧ y < r.y + r.height

instance (r : Rect) (x y : Int) : Decidable (r.Contains x y) :=
  inferInstanceAs (Decidable (_ ∧ _))

end Rect

end HexEditor
