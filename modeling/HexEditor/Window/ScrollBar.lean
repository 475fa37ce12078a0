import HexEditor.Offset
import HexEditor.Window.Region

/-!
# The scroll bar

A handle on a rail, the first row at the top. Where the handle is put leaves a range of rows; the
one that is written with the fewest digits is taken. Rows are counted in double precision.
-/

namespace HexEditor

/-- The power of ten of the first decimal digit of a positive number. -/
def decimalExponent (q : Rat) : Int :=
  let guess : Int := (Nat.repr q.num.natAbs).length - (Nat.repr q.den).length
  if q < power 10 guess then guess - 1 else guess

def simplestDigit (low high : Nat) : Nat :=
  if low = 0 then 0 else if low ≤ 5 ∧ 5 ≤ high then 5 else (low + high) / 2

def tens (zeros : Nat) : Nat :=
  Nat.pow 10 zeros

/-- The roundest number between two others: where their digits part, the simplest digit, and zeros
behind it. -/
def roundest (digits low high : Nat) : Nat :=
  match (List.range digits).reverse.find? fun k => low / tens k ≠ high / tens k with
  | some k =>
    let common := low / tens (k + 1) * 10
    let least := (low + tens k - 1) / tens k
    (common + simplestDigit (least - common) (high / tens k - common)) * tens k
  | none => low

def aimDigits : Nat := 15

/-- The simplest number between two that are not negative. -/
def simplestBetween (low high : Rat) : Rat :=
  if low = high then low
  else if low ≤ 0 then 0
  else
    let (a, b) := (decimalExponent low, decimalExponent high)
    if a ≠ b then power 10 ((decimalExponent (low * high) + 1).fdiv 2)
    else if low = power 10 a then low
    else
      let scale := power 10 (aimDigits - b - 1)
      let digits :=
        roundest aimDigits (roundAway (low * scale)).toNat (roundAway (high * scale)).toNat
      double (digits / scale)

namespace ScrollBar

def thickness : Rat := 18

def handleRadius : Rat :=
  single (thickness / (5 / 2))

/-- How far a height is from one end of the rail to the other, between zero and one. -/
def share (start stop y : Rat) : Rat :=
  if y ≤ start then 0 else if stop ≤ y then 1
  else single (single (y - start) / single (stop - start))

/-- The row, not yet whole, for a height on a bar with a given last row. On a bar that is lower than
its handle the ends change places. -/
def rowAt (bar : Span) (last : Nat) (y : Rat) : Rat :=
  let top := single (bar.first + handleRadius)
  let bottom := single (bar.last - handleRadius)
  let part := if top < bottom then 1 - single (1 - share top bottom y) else 1 - share bottom top y
  double (part * double last)

/-- A whole row that the bar has; a half goes to the row above. -/
def whole (last : Nat) (row : Rat) : Nat :=
  let final := double last
  let steps := roundAway (double (larger 0 (smaller row final) - final))
  min (double (final + steps)).floor.toNat Offset.top

/-- The row for the pointer at a height; a pixel more or less does not matter. -/
def row (bar : Span) (last : Nat) (pixel y : Rat) : Nat :=
  let (a, b) := (rowAt bar last (single (y - pixel)), rowAt bar last (single (y + pixel)))
  whole last (simplestBetween (smaller a b) (larger a b))

end ScrollBar

end HexEditor
