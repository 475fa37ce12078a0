import HexEditor.Rational

/-!
# Places in the window

Points and rectangles in the lengths of the window. The sides belong to a rectangle.
-/

namespace HexEditor

structure Point where
  x : Rat
  y : Rat
deriving DecidableEq, Repr

def Point.distanceSq (p q : Point) : Rat :=
  square (p.x - q.x) + square (p.y - q.y)

structure Span where
  first : Rat
  last : Rat
deriving DecidableEq, Repr

namespace Span

def size (s : Span) : Rat :=
  s.last - s.first

def center (s : Span) : Rat :=
  (s.first + s.last) / 2

def Contains (s : Span) (a : Rat) : Prop :=
  s.first ≤ a ∧ a ≤ s.last

instance (s : Span) (a : Rat) : Decidable (s.Contains a) :=
  inferInstanceAs (Decidable (_ ∧ _))

def meet (s t : Span) : Span :=
  ⟨larger s.first t.first, smaller s.last t.last⟩

def inset (s : Span) (a : Rat) : Span :=
  ⟨s.first + a, s.last - a⟩

def distance (s : Span) (a : Rat) : Rat :=
  larger 0 (larger (s.first - a) (a - s.last))

/-- How far one span is behind another; none if they share half of the smaller one. -/
def offset (s t : Span) : Rat :=
  if smaller s.size t.size / 2 ≤ (s.meet t).size then 0 else s.center - t.center

end Span

structure Region where
  across : Span
  down : Span
deriving DecidableEq, Repr

namespace Region

def ofSize (left top width height : Rat) : Region :=
  ⟨⟨left, left + width⟩, ⟨top, top + height⟩⟩

variable (r : Region)

def corner : Point :=
  ⟨r.across.first, r.down.first⟩

def width : Rat :=
  r.across.size

def height : Rat :=
  r.down.size

def thickness : Rat :=
  smaller r.width r.height

def IsNegative : Prop :=
  r.width < 0 ∨ r.height < 0

instance : Decidable r.IsNegative :=
  inferInstanceAs (Decidable (_ ∨ _))

def Contains (p : Point) : Prop :=
  r.across.Contains p.x ∧ r.down.Contains p.y

instance (p : Point) : Decidable (r.Contains p) :=
  inferInstanceAs (Decidable (_ ∧ _))

def Covers (s : Region) : Prop :=
  r.Contains s.corner ∧ r.Contains ⟨s.across.last, s.down.last⟩

instance (s : Region) : Decidable (r.Covers s) :=
  inferInstanceAs (Decidable (_ ∧ _))

def meet (s : Region) : Region :=
  ⟨r.across.meet s.across, r.down.meet s.down⟩

def inset (a : Rat) : Region :=
  ⟨r.across.inset a, r.down.inset a⟩

def distanceSq (p : Point) : Rat :=
  square (r.across.distance p.x) + square (r.down.distance p.y)

end Region

end HexEditor
