/-!
# Rational numbers

Bounds and powers of rational numbers, and their rounding to integers and to binary numbers of a
fixed number of digits.
-/

namespace HexEditor

def larger (a b : Rat) : Rat :=
  if a ≤ b then b else a

def smaller (a b : Rat) : Rat :=
  if a ≤ b then a else b

def square (a : Rat) : Rat :=
  a * a

def power (base : Nat) (exponent : Int) : Rat :=
  if 0 ≤ exponent then (base.pow exponent.toNat : Nat) else mkRat 1 (base.pow exponent.natAbs)

def truncate (q : Rat) : Int :=
  if q < 0 then q.ceil else q.floor

/-- To the nearest integer; a half goes away from zero. -/
def roundAway (q : Rat) : Int :=
  if q < 0 then (q - 1 / 2).ceil else (q + 1 / 2).floor

/-- To the nearest integer; a half goes to the even one. -/
def roundEven (q : Rat) : Int :=
  let n := (q + 1 / 2).floor
  if n = q + 1 / 2 ∧ n % 2 = 1 then n - 1 else n

def leadingExponent (q : Rat) : Int :=
  let e : Int := q.num.natAbs.log2 - q.den.log2
  if q.abs < power 2 e then e - 1 else e

/-- The nearest number of so many binary digits; of two, the one whose last digit is zero. -/
def toPrecision (digits : Nat) (q : Rat) : Rat :=
  if q = 0 then 0
  else
    let unit := power 2 (leadingExponent q - digits + 1)
    roundEven (q / unit) * unit

def single (q : Rat) : Rat :=
  toPrecision 24 q

def double (q : Rat) : Rat :=
  toPrecision 53 q

end HexEditor
