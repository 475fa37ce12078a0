import HexEditor.Text

/-!
# JSON

Members of an object keep their order and may repeat. A number is kept as it is written. A string
literal may hold one half of a surrogate pair; it then has no text.

A document is read as a list of tokens, with blanks left out; there is none if some part of the text
is no token. The reader takes one token after the other and keeps the arrays and objects that are
still open in a list, so values may be nested as deep as the text allows.
-/

namespace HexEditor

inductive Json
  | null
  | bool (b : Bool)
  | number (lexeme : String)
  | string (text : Option String)
  | array (items : List Json)
  | object (members : List (Option String × Json))
deriving Repr, Inhabited

namespace Json

def ofNat (n : Nat) : Json :=
  .number (toString n)

def ofText (s : String) : Json :=
  .string (some s)

def ofMembers (members : List (String × Json)) : Json :=
  .object (members.map fun (name, value) => (some name, value))

-- ---------------------------------------------------------------------------
-- Printing
-- ---------------------------------------------------------------------------

def escapeChar (c : Char) : List Char :=
  match c with
  | '"' => ['\\', '"']
  | '\\' => ['\\', '\\']
  | '\n' => ['\\', 'n']
  | '\r' => ['\\', 'r']
  | '\t' => ['\\', 't']
  | '\x08' => ['\\', 'b']
  | '\x0c' => ['\\', 'f']
  | c =>
    if c.toNat < 0x20 then
      ['\\', 'u', '0', '0', Hex.lowerDigit (c.toNat / 16), Hex.lowerDigit (c.toNat % 16)]
    else [c]

/-- The literal of a text; a string without one is written as half a surrogate pair. -/
def literal : Option String → String
  | some text => String.ofList ('"' :: text.toList.flatMap escapeChar ++ ['"'])
  | none => "\"\\ud800\""

def newline (level : Nat) : String :=
  String.ofList ('\n' :: List.replicate (2 * level) ' ')

mutual

def prettyAt (level : Nat) : Json → String
  | null => "null"
  | bool true => "true"
  | bool false => "false"
  | number lexeme => lexeme
  | string text => literal text
  | array [] => "[]"
  | array (item :: items) =>
    "[" ++ newline (level + 1) ++ prettyAt (level + 1) item ++ prettyItems (level + 1) items ++
      newline level ++ "]"
  | object [] => "\x7b\x7d"
  | object ((name, value) :: members) =>
    "\x7b" ++ newline (level + 1) ++ literal name ++ ": " ++ prettyAt (level + 1) value ++
      prettyMembers (level + 1) members ++ newline level ++ "\x7d"

def prettyItems (level : Nat) : List Json → String
  | [] => ""
  | item :: items => "," ++ newline level ++ prettyAt level item ++ prettyItems level items

def prettyMembers (level : Nat) : List (Option String × Json) → String
  | [] => ""
  | (name, value) :: members =>
    "," ++ newline level ++ literal name ++ ": " ++ prettyAt level value ++
      prettyMembers level members

end

def pretty (j : Json) : String :=
  j.prettyAt 0

-- ---------------------------------------------------------------------------
-- Reading values
-- ---------------------------------------------------------------------------

def decimal (digits : List Char) : Nat :=
  digits.foldl (fun n c => 10 * n + (c.toNat - 48)) 0

/-- A natural number below `bound`; it has no sign, fraction or exponent. -/
def nat? (bound : Nat) : Json → Option Nat
  | number lexeme =>
    let digits := lexeme.toList
    if digits.all Char.isDigit ∧ decimal digits < bound then some (decimal digits) else none
  | _ => none

def bool? : Json → Option Bool
  | bool b => some b
  | _ => none

/-- The values of named fields. A record is an object, in which no field stands twice and other
members are ignored, or an array of the fields in order, in which the last ones may be missing. -/
def fields? (names : List String) : Json → Option (List (Option Json))
  | array items =>
    if items.length ≤ names.length then some ((List.range names.length).map (items[·]?)) else none
  | object members =>
    let known := members.filterMap (·.1) |>.filter (names.contains ·)
    if members.all (·.1.isSome) ∧
      known.Nodup then some (names.map fun name => members.lookup (some name))
    else none
  | _ => none

def optional (read : Json → Option α) (fallback : α) : Option Json → Option α
  | none => some fallback
  | some j => read j

end Json

-- ---------------------------------------------------------------------------
-- Tokens
-- ---------------------------------------------------------------------------

namespace Json

inductive Token
  | openBrace
  | closeBrace
  | openBracket
  | closeBracket
  | colon
  | comma
  | null
  | bool (b : Bool)
  | number (lexeme : String)
  | string (text : Option String)
deriving DecidableEq, Repr

def isBlank (c : Char) : Bool :=
  c = ' ' || c = '\t' || c = '\n' || c = '\r'

-- ---------------------------------------------------------------------------
-- Numbers
-- ---------------------------------------------------------------------------

def digits (cs : List Char) : List Char × List Char :=
  (cs.takeWhile Char.isDigit, cs.dropWhile Char.isDigit)

def digits? (cs : List Char) : Option (List Char × List Char) :=
  if (digits cs).1.isEmpty then none else some (digits cs)

def whole? (cs : List Char) : Option (List Char × List Char) :=
  match digits cs with
  | ([], _) => none
  | ('0' :: _ :: _, _) => none
  | found => some found

def fraction? : List Char → Option (List Char × List Char)
  | '.' :: cs => (digits? cs).map fun (ds, rest) => ('.' :: ds, rest)
  | cs => some ([], cs)

def exponentSign : List Char → List Char × List Char
  | '+' :: cs => (['+'], cs)
  | '-' :: cs => (['-'], cs)
  | cs => ([], cs)

def exponent? : List Char → Option (List Char × List Char)
  | [] => some ([], [])
  | c :: cs =>
    if c = 'e' ∨ c = 'E' then
      (digits? (exponentSign cs).2).map fun (ds, rest) => (c :: (exponentSign cs).1 ++ ds, rest)
    else some ([], c :: cs)

def unsigned? (cs : List Char) : Option (List Char × List Char) := do
  let (whole, cs) ← whole? cs
  let (fraction, cs) ← fraction? cs
  let (exponent, cs) ← exponent? cs
  return (whole ++ fraction ++ exponent, cs)

def number? : List Char → Option (List Char × List Char)
  | '-' :: cs => (unsigned? cs).map fun (ds, rest) => ('-' :: ds, rest)
  | cs => unsigned? cs

-- ---------------------------------------------------------------------------
-- Strings
-- ---------------------------------------------------------------------------

/-- A character of a string literal, or a 16-bit unit written with four hexadecimal digits. -/
inductive Piece
  | char (c : Char)
  | unit (n : Nat)
deriving DecidableEq, Repr

def escaped? : Char → Option Char
  | '"' => some '"'
  | '\\' => some '\\'
  | '/' => some '/'
  | 'b' => some '\x08'
  | 'f' => some '\x0c'
  | 'n' => some '\n'
  | 'r' => some '\r'
  | 't' => some '\t'
  | _ => none

def unit? (a b c d : Char) : Option Nat := do
  return ((16 * (← Hex.value? a) + (← Hex.value? b)) * 16 + (← Hex.value? c)) * 16 +
    (← Hex.value? d)

/-- The pieces up to the closing quote, and what follows it. -/
def pieces? : List Char → Option (List Piece × List Char)
  | [] => none
  | '"' :: cs => some ([], cs)
  | '\\' :: 'u' :: a :: b :: c :: d :: cs => do
    let n ← unit? a b c d
    let (pieces, rest) ← pieces? cs
    return (.unit n :: pieces, rest)
  | '\\' :: c :: cs => do
    let c ← escaped? c
    let (pieces, rest) ← pieces? cs
    return (.char c :: pieces, rest)
  | c :: cs =>
    if c.toNat < 0x20 then none
    else do
      let (pieces, rest) ← pieces? cs
      return (.char c :: pieces, rest)

def isHighSurrogate (n : Nat) : Bool := 0xD800 ≤ n && n < 0xDC00

def isLowSurrogate (n : Nat) : Bool := 0xDC00 ≤ n && n < 0xE000

/-- The text of a literal, if every surrogate in it is one of a pair. -/
def text? : List Piece → Option (List Char)
  | [] => some []
  | .char c :: pieces => (text? pieces).map (c :: ·)
  | .unit high :: .unit low :: pieces =>
    if isHighSurrogate high then
      if isLowSurrogate low then
        (text? pieces).map (Char.ofNat (0x10000 + (high - 0xD800) * 0x400 + (low - 0xDC00)) :: ·)
      else none
    else if isLowSurrogate high then none
    else (text? (.unit low :: pieces)).map (Char.ofNat high :: ·)
  | .unit n :: pieces =>
    if isHighSurrogate n || isLowSurrogate n then none else (text? pieces).map (Char.ofNat n :: ·)

-- ---------------------------------------------------------------------------
-- Tokens
-- ---------------------------------------------------------------------------

def token? : List Char → Option (Token × List Char)
  | '\x7b' :: cs => some (.openBrace, cs)
  | '\x7d' :: cs => some (.closeBrace, cs)
  | '[' :: cs => some (.openBracket, cs)
  | ']' :: cs => some (.closeBracket, cs)
  | ':' :: cs => some (.colon, cs)
  | ',' :: cs => some (.comma, cs)
  | 'n' :: 'u' :: 'l' :: 'l' :: cs => some (.null, cs)
  | 't' :: 'r' :: 'u' :: 'e' :: cs => some (.bool true, cs)
  | 'f' :: 'a' :: 'l' :: 's' :: 'e' :: cs => some (.bool false, cs)
  | '"' :: cs =>
    (pieces? cs).map fun (pieces, rest) => (.string ((text? pieces).map String.ofList), rest)
  | cs => (number? cs).map fun (lexeme, rest) => (.number (String.ofList lexeme), rest)

/-- All tokens, given a bound on their number; `found` are the ones before, the last first. -/
def tokensAfter? (found : List Token) : Nat → List Char → Option (List Token)
  | 0, _ => none
  | _ + 1, [] => some found.reverse
  | bound + 1, c :: cs =>
    if isBlank c then tokensAfter? found bound cs
    else
      match token? (c :: cs) with
      | some (token, rest) => tokensAfter? (token :: found) bound rest
      | none => none

def tokens? (cs : List Char) : Option (List Token) :=
  tokensAfter? [] (cs.length + 1) cs

end Json

-- ---------------------------------------------------------------------------
-- Reading
-- ---------------------------------------------------------------------------

namespace Json

/-- An array or object that is still open, its parts in reverse. -/
inductive Container
  | array (items : List Json)
  /-- The value of `name` is being read. -/
  | object (members : List (Option String × Json)) (name : Option String)

/-- What has been read, and what may follow. The containers around it are listed from the inside
out. -/
inductive Reader
  | value (around : List Container)
  | arrayStart (around : List Container)
  | afterItem (items : List Json) (around : List Container)
  | objectStart (around : List Container)
  | beforeName (members : List (Option String × Json)) (around : List Container)
  | afterName (name : Option String) (members : List (Option String × Json))
    (around : List Container)
  | afterMember (members : List (Option String × Json)) (around : List Container)
  | done (j : Json)

namespace Reader

def finish (j : Json) : List Container → Reader
  | [] => .done j
  | .array items :: around => .afterItem (j :: items) around
  | .object members name :: around => .afterMember ((name, j) :: members) around

def startValue (around : List Container) : Token → Option Reader
  | .null => some (finish .null around)
  | .bool b => some (finish (.bool b) around)
  | .number lexeme => some (finish (.number lexeme) around)
  | .string text => some (finish (.string text) around)
  | .openBracket => some (.arrayStart around)
  | .openBrace => some (.objectStart around)
  | _ => none

def step : Reader → Token → Option Reader
  | .value around, token => startValue around token
  | .arrayStart around, .closeBracket => some (finish (.array []) around)
  | .arrayStart around, token => startValue (.array [] :: around) token
  | .afterItem items around, .comma => some (.value (.array items :: around))
  | .afterItem items around, .closeBracket => some (finish (.array items.reverse) around)
  | .objectStart around, .closeBrace => some (finish (.object []) around)
  | .objectStart around, .string name => some (.afterName name [] around)
  | .beforeName members around, .string name => some (.afterName name members around)
  | .afterName name members around, .colon => some (.value (.object members name :: around))
  | .afterMember members around, .comma => some (.beforeName members around)
  | .afterMember members around, .closeBrace => some (finish (.object members.reverse) around)
  | _, _ => none

end Reader

def ofTokens? (tokens : List Token) : Option Json :=
  match tokens.foldlM Reader.step (.value []) with
  | some (.done j) => some j
  | _ => none

/-- The value of a text; only blanks may surround it. -/
def parse? (text : String) : Option Json := do
  ofTokens? (← tokens? text.toList)

end Json

end HexEditor
