import HexEditor.Error
import HexEditor.Offset

/-!
# Layout and font metrics

How the bytes are arranged on the grid, and the font sizes that the host reports. `validate` names
the first rule that is broken.
-/

namespace HexEditor

inductive AddressWidth
  | bits32
  | bits64
deriving DecidableEq, Repr, Inhabited

namespace AddressWidth

def digits : AddressWidth → Nat
  | bits32 => 8
  | bits64 => 16

def wordSize : AddressWidth → Nat
  | bits32 => 4
  | bits64 => 8

/-- An address that needs more digits than the width has is written in full. -/
def format (width : AddressWidth) (address : Nat) : String :=
  Hex.padded width.digits address

end AddressWidth

structure Layout where
  bytesPerRow : Nat := 16
  bytesPerColumn : Nat := 2
  /-- Pixels between two hex columns. -/
  columnSpacing : Nat := 4
  addressWidth : AddressWidth := .bits32
  /-- Show the bytes of each column in reverse. -/
  flipBytes : Bool := false
  /-- Address of offset 0. -/
  baseAddress : Nat := 0
deriving DecidableEq, Repr, Inhabited

namespace Layout

def maxBytesPerRow : Nat := 4096
def maxColumnSpacing : Nat := 256

def validate (l : Layout) : Except Error Unit :=
  if l.bytesPerRow = 0 then .error (.invalid .emptyRow)
  else if maxBytesPerRow < l.bytesPerRow then
    .error (.invalid (.wideRow l.bytesPerRow maxBytesPerRow))
  else if l.bytesPerColumn = 0 then .error (.invalid .emptyColumn)
  else if l.bytesPerRow < l.bytesPerColumn then
    .error (.invalid (.wideColumn l.bytesPerColumn l.bytesPerRow))
  else if l.columnSpacing = 0 ∨ maxColumnSpacing < l.columnSpacing then
    .error (.invalid (.spacing maxColumnSpacing))
  else .ok ()

/-- The last column of a row may be partial. -/
def columnsPerRow (l : Layout) : Nat :=
  divUp l.bytesPerRow l.bytesPerColumn

def addressOf (l : Layout) (offset : Nat) : Nat :=
  Offset.wrapAdd l.baseAddress offset

def formatAddress (l : Layout) (offset : Nat) : String :=
  l.addressWidth.format (l.addressOf offset)

end Layout

structure Metrics where
  charWidth : Nat := 8
  /-- Height of a glyph above the baseline. -/
  charHeight : Nat := 8
  /-- Distance between two baselines. -/
  rowHeight : Nat := 12
deriving DecidableEq, Repr, Inhabited

namespace Metrics

def maxSize : Nat := 256

def validate (m : Metrics) : Except Error Unit :=
  if m.charWidth = 0 ∨ m.charHeight = 0 ∨ m.rowHeight = 0 then .error (.invalid .flatFont)
  else if maxSize < max m.charWidth m.rowHeight then .error (.invalid (.largeFont maxSize))
  else if m.rowHeight < m.charHeight then .error (.invalid .tallGlyph)
  else .ok ()

def topPadding (m : Metrics) : Int :=
  max 16 (pixels m.charHeight + 4)

def addressColumn (m : Metrics) (width : AddressWidth) : Int :=
  20 + pixels m.charWidth * width.digits

end Metrics

end HexEditor
