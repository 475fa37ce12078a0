import HexEditor.Offset

/-!
# Machine words

A `Word` is a number that a machine word can hold, or none if a number on the way to it was too
large or too small for one. Its arithmetic checks every result, so a formula over words tells
whether it can be computed without overflow. `Within` says that it can, what comes out, and between
which bounds; bounds of a sum or of a product are those of its parts.
-/

namespace HexEditor

/-- A number from `low` on and below `high`, or none if one on the way to it was not. -/
structure Word (low high : Int) where
  int? : Option Int

abbrev PixelWord := Word (-0x80000000) 0x80000000

abbrev OffsetWord := Word 0 0x10000000000000000

namespace Word

variable {low high low' high' : Int}

/-- The number as a word, if it is in the range. -/
def of (x : Int) : Word low high :=
  ⟨if low ≤ x ∧ x < high then some x else none⟩

def bind (a : Word low high) (f : Int → Word low' high') : Word low' high' :=
  ⟨a.int?.bind fun x => (f x).int?⟩

instance (n : Nat) : OfNat (Word low high) n :=
  ⟨of n⟩

instance : Add (Word low high) :=
  ⟨fun a b => a.bind fun x => b.bind fun y => of (x + y)⟩

instance : Sub (Word low high) :=
  ⟨fun a b => a.bind fun x => b.bind fun y => of (x - y)⟩

instance : Mul (Word low high) :=
  ⟨fun a b => a.bind fun x => b.bind fun y => of (x * y)⟩

instance : Div (Word low high) :=
  ⟨fun a b => a.bind fun x => b.bind fun y => if y = 0 then ⟨none⟩ else of (x.tdiv y)⟩

instance : Mod (Word low high) :=
  ⟨fun a b => a.bind fun x => b.bind fun y => if y = 0 then ⟨none⟩ else of (x.tmod y)⟩

instance : Min (Word low high) :=
  ⟨fun a b => a.bind fun x => b.bind fun y => of (min x y)⟩

instance : Max (Word low high) :=
  ⟨fun a b => a.bind fun x => b.bind fun y => of (max x y)⟩

def cast (a : Word low high) : Word low' high' :=
  a.bind of

def nat? (a : Word low high) : Option Nat :=
  a.int?.map Int.toNat

/-- Computed without overflow, with a result between two bounds. -/
structure Within (a : Word low high) (x l u : Int) : Prop where
  int? : a.int? = some x
  ge : l ≤ x
  le : x ≤ u

variable {a b : Word low high} {x y l l' u u' : Int}

theorem Within.nat? {n : Nat} (h : a.Within n l u) : a.nat? = some n := by
  rw [Word.nat?, h.int?]
  rfl

theorem bind_of_eq_some {o : Option α} {value : α} (h : o = some value) (f : α → Option β) :
    (o >>= f) = f value := by
  rw [h]
  rfl

theorem Within.int?_bind (h : a.Within x l u) (f : Int → Option β) : (a.int? >>= f) = f x :=
  bind_of_eq_some h.int? f

theorem Within.nat?_bind {n : Nat} (h : a.Within n l u) (f : Nat → Option β) :
    (a.nat? >>= f) = f n :=
  bind_of_eq_some h.nat? f

theorem within_of (hl : l ≤ x) (hu : x ≤ u) (h : low ≤ l ∧ u < high) :
    (of x : Word low high).Within x l u :=
  ⟨if_pos (by omega), hl, hu⟩

theorem within_self (x : Int) (h : low ≤ x ∧ x < high) : (of x : Word low high).Within x x x :=
  within_of (Int.le_refl x) (Int.le_refl x) h

theorem Within.mono (h : a.Within x l u) (hl : l' ≤ x) (hu : x ≤ u') : a.Within x l' u' :=
  ⟨h.int?, hl, hu⟩

theorem Within.widen (h : a.Within x l u) (hbounds : l' ≤ l ∧ u ≤ u') : a.Within x l' u' :=
  h.mono (Int.le_trans hbounds.1 h.ge) (Int.le_trans h.le hbounds.2)

theorem Within.bind {f : Int → Word low' high'} (ha : a.Within x l u) (hf : (f x).Within y l' u') :
    (a.bind f).Within y l' u' := by
  refine ⟨?_, hf.ge, hf.le⟩
  rw [Word.bind, ha.int?]
  exact hf.int?

/-- A number on the way to it, or the word itself, was out of range. -/
def Overflows (a : Word low high) : Prop :=
  a.int? = none

theorem of_overflows (h : high ≤ x) : (of x : Word low high).Overflows :=
  if_neg (by omega)

theorem Overflows.bind (h : a.Overflows) (f : Int → Word low' high') : (a.bind f).Overflows := by
  rw [Overflows, Word.bind, h]
  rfl

theorem bind_overflows {f : Int → Word low' high'} (h : ∀ x, (f x).Overflows) :
    (a.bind f).Overflows := by
  cases ha : a.int? with
  | none => exact Overflows.bind ha f
  | some x =>
    rw [Overflows, Word.bind, ha]
    exact h x

-- What is computed with a number out of range is out of range.

theorem Overflows.sub_left (h : a.Overflows) : (a - b).Overflows :=
  h.bind _

theorem Overflows.min_left (h : a.Overflows) : (min a b).Overflows :=
  h.bind _

theorem Overflows.add_right (h : b.Overflows) : (a + b).Overflows :=
  bind_overflows fun _ => h.bind _

theorem Overflows.min_right (h : b.Overflows) : (min a b).Overflows :=
  bind_overflows fun _ => h.bind _

section
variable (ha : a.Within x l u) (hb : b.Within y l' u')
include ha hb

theorem Within.add_overflows (h : high ≤ x + y) : (a + b).Overflows := by
  change Option.bind _ _ = _
  rw [ha.int?, Option.bind_some]
  change Option.bind _ _ = _
  rw [hb.int?, Option.bind_some]
  exact of_overflows h

theorem Within.add (h : low ≤ l + l' ∧ u + u' < high) : (a + b).Within (x + y) (l + l') (u + u') :=
  ha.bind (hb.bind (within_of (Int.add_le_add ha.ge hb.ge) (Int.add_le_add ha.le hb.le) h))

theorem Within.sub (h : low ≤ l - u' ∧ u - l' < high) : (a - b).Within (x - y) (l - u') (u - l') :=
  ha.bind (hb.bind (within_of (Int.sub_le_sub ha.ge hb.le) (Int.sub_le_sub ha.le hb.ge) h))

-- A sum and a product for which better bounds are known than those of their parts give.

theorem Within.add_of {p q : Int} (hp : p ≤ x + y) (hq : x + y ≤ q) (h : low ≤ p ∧ q < high) :
    (a + b).Within (x + y) p q :=
  ha.bind (hb.bind (within_of hp hq h))

theorem Within.mul_of {p q : Int} (hp : p ≤ x * y) (hq : x * y ≤ q) (h : low ≤ p ∧ q < high) :
    (a * b).Within (x * y) p q :=
  ha.bind (hb.bind (within_of hp hq h))

theorem Within.mul (h : (0 ≤ l ∧ 0 ≤ l') ∧ low ≤ 0 ∧ u * u' < high) :
    (a * b).Within (x * y) 0 (u * u') := by
  have hx : 0 ≤ x := Int.le_trans h.1.1 ha.ge
  have hy : 0 ≤ y := Int.le_trans h.1.2 hb.ge
  exact ha.mul_of hb (Int.mul_nonneg hx hy)
    (Int.mul_le_mul ha.le hb.le hy (Int.le_trans hx ha.le)) h.2

theorem Within.tdiv (h : (0 ≤ l ∧ 0 < l') ∧ low ≤ 0 ∧ u < high) :
    (a / b).Within (x.tdiv y) 0 u := by
  have hx : 0 ≤ x := Int.le_trans h.1.1 ha.ge
  have hy : 0 < y := Int.lt_of_lt_of_le h.1.2 hb.ge
  refine ha.bind (hb.bind ?_)
  rw [if_neg (by omega)]
  exact within_of (Int.tdiv_nonneg hx (by omega)) (Int.le_trans (Int.tdiv_le_self y hx) ha.le) h.2

theorem Within.tmod (h : (0 ≤ l ∧ 0 < l') ∧ low ≤ 0 ∧ u' < high) :
    (a % b).Within (x.tmod y) 0 u' := by
  have hx : 0 ≤ x := Int.le_trans h.1.1 ha.ge
  have hy : 0 < y := Int.lt_of_lt_of_le h.1.2 hb.ge
  have hlt := Int.tmod_lt_of_pos x hy
  refine ha.bind (hb.bind ?_)
  rw [if_neg (by omega)]
  exact within_of (Int.tmod_nonneg y hx) (Int.le_trans (Int.le_of_lt hlt) hb.le) h.2

theorem Within.max (h : low ≤ l ∧ max u u' < high) : (max a b).Within (max x y) l (max u u') := by
  have := ha.ge
  have := ha.le
  have := hb.le
  exact ha.bind (hb.bind (within_of (by omega) (by omega) h))

end

-- ---------------------------------------------------------------------------
-- Natural numbers
-- ---------------------------------------------------------------------------

section
variable {bound n : Nat}

theorem within_below (h : n < bound) : (of n : Word 0 bound).Within n 0 (bound - 1 : Nat) :=
  within_of (by omega) (by omega) (by omega)

theorem within_divisor (hpos : 0 < n) (h : n < bound) : (of n : Word 0 bound).Within n 1 n :=
  within_of (by omega) (by omega) (by omega)

end

section
variable {m n q : Nat} (ha : a.Within m l u) (hb : b.Within n l' u')
include ha hb

theorem Within.natAdd (h : low ≤ 0 ∧ u + u' < high) : (a + b).Within (m + n : Nat) 0 (u + u') := by
  rw [Int.natCast_add]
  exact ha.add_of hb (by omega) (Int.add_le_add ha.le hb.le) h

theorem Within.natMul (h : (0 ≤ l ∧ 0 ≤ l') ∧ low ≤ 0 ∧ u * u' < high) :
    (a * b).Within (m * n : Nat) 0 (u * u') := by
  rw [Int.natCast_mul]
  exact ha.mul hb h

-- A sum and a product for which a better bound is known than those of their parts give.

theorem Within.natAdd_of (hq : m + n ≤ q) (h : low ≤ 0 ∧ q < high) :
    (a + b).Within (m + n : Nat) 0 q := by
  rw [Int.natCast_add]
  exact ha.add_of hb (by omega) (by omega) h

theorem Within.natMul_of (hq : m * n ≤ q) (h : low ≤ 0 ∧ q < high) :
    (a * b).Within (m * n : Nat) 0 q := by
  have hproduct : ((m * n : Nat) : Int) = m * n := Int.natCast_mul m n
  rw [hproduct]
  exact ha.mul_of hb (by omega) (by omega) h

theorem Within.natSub (hle : n ≤ m) (h : low ≤ 0 ∧ u < high) :
    (a - b).Within (m - n : Nat) 0 u := by
  have hm := ha.le
  rw [Int.natCast_sub hle]
  exact ha.bind (hb.bind (within_of (by omega) (by omega) h))

theorem Within.natDiv (h : (0 ≤ l ∧ 0 < l') ∧ low ≤ 0 ∧ u < high) :
    (a / b).Within (m / n : Nat) 0 u := by
  rw [Int.ofNat_tdiv]
  exact ha.tdiv hb h

theorem Within.natMod (h : (0 ≤ l ∧ 0 < l') ∧ low ≤ 0 ∧ u' < high) :
    (a % b).Within (m % n : Nat) 0 u' := by
  rw [Int.ofNat_tmod]
  exact ha.tmod hb h

theorem Within.natMin (h : low ≤ 0 ∧ u < high) : (min a b).Within (min m n : Nat) 0 u := by
  have hle := ha.le
  have hmin : ((min m n : Nat) : Int) = min (m : Int) n := by omega
  rw [hmin]
  exact ha.bind (hb.bind (within_of (by omega) (by omega) h))

end

theorem Within.cast (ha : a.Within x l u) (h : low' ≤ l ∧ u < high') :
    (a.cast : Word low' high').Within x l u :=
  ha.bind (within_of ha.ge ha.le h)

theorem Within.toOffset (ha : a.Within x 0 u) (h : u < 0x10000000000000000) :
    (a.cast : OffsetWord).Within (Offset.ofInt x : Nat) 0 u := by
  have hge := ha.ge
  have hle := ha.le
  have hoffset : (Offset.ofInt x : Int) = x := by
    unfold Offset.ofInt
    omega
  rw [hoffset]
  exact ha.cast ⟨Int.le_refl 0, h⟩

end Word

end HexEditor
