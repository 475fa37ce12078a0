/-!
# Text

Numbers are written in hexadecimal, in upper case; bytes have two digits, addresses are padded with
zeros. Escapes in text use lower case.

Addresses are typed by the user: hexadecimal, with or without `0x`; decimal after `#`. A plus sign
may stand in front of the digits.
-/

namespace HexEditor

namespace Hex

def digit (d : Nat) : Char :=
  if d < 10 then Char.ofNat (48 + d) else Char.ofNat (55 + d)

def digits (n : Nat) : List Char :=
  if n < 16 then [digit n] else digits (n / 16) ++ [digit (n % 16)]

def number (n : Nat) : String :=
  String.ofList (digits n)

def padded (width n : Nat) : String :=
  String.ofList (List.replicate (width - (digits n).length) '0' ++ digits n)

def byte (b : UInt8) : String :=
  String.ofList [digit (b.toNat / 16), digit (b.toNat % 16)]

def lowerDigit (d : Nat) : Char :=
  if d < 10 then Char.ofNat (48 + d) else Char.ofNat (87 + d)

def lowerDigits (n : Nat) : List Char :=
  if n < 16 then [lowerDigit n] else lowerDigits (n / 16) ++ [lowerDigit (n % 16)]

def value? (c : Char) : Option Nat :=
  if '0' ≤ c ∧ c ≤ '9' then some (c.toNat - 48)
  else if 'a' ≤ c ∧ c ≤ 'f' then some (c.toNat - 87)
  else if 'A' ≤ c ∧ c ≤ 'F' then some (c.toNat - 55)
  else none

end Hex

-- ---------------------------------------------------------------------------
-- Bytes as text
-- ---------------------------------------------------------------------------

abbrev Bytes := Array UInt8

/-- Bytes that the text pane shows as themselves: ASCII from the space to the tilde. -/
def isPrintable (b : UInt8) : Bool :=
  0x20 ≤ b && b ≤ 0x7E

def byteText (b : UInt8) : String :=
  if isPrintable b then String.singleton (Char.ofNat b.toNat) else "."

-- ---------------------------------------------------------------------------
-- Addresses
-- ---------------------------------------------------------------------------

namespace Text

def isBlank (c : Char) : Bool :=
  let n := c.toNat
  (0x9 ≤ n && n ≤ 0xD) || n = 0x20 || n = 0x85 || n = 0xA0 || n =
    0x1680 || (0x2000 ≤ n && n ≤ 0x200A) ||
    n = 0x2028 || n = 0x2029 || n = 0x202F || n = 0x205F || n = 0x3000

def trim (cs : List Char) : List Char :=
  ((cs.dropWhile isBlank).reverse.dropWhile isBlank).reverse

end Text

namespace Address

def digitsValue? (base : Nat) (cs : List Char) : Option Nat :=
  cs.foldlM
    (fun n c => (Hex.value? c).bind fun d => if d < base then some (base * n + d) else none) 0

/-- At least one digit, perhaps after a plus sign, and a value below `2 ^ 64`. -/
def number? (base : Nat) (cs : List Char) : Option Nat :=
  let digits :=
    match cs with
    | '+' :: digits => digits
    | digits => digits
  if digits.isEmpty then none else (digitsValue? base digits).filter (· < 0x10000000000000000)

def parse? (text : String) : Option Nat :=
  match Text.trim text.toList with
  | '#' :: cs => number? 10 (Text.trim cs)
  | '0' :: 'x' :: cs => number? 16 cs
  | '0' :: 'X' :: cs => number? 16 cs
  | cs => number? 16 cs

end Address

end HexEditor
