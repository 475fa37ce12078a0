import HexEditor.Text

/-!
# Errors

What an operation of the viewer can refuse. Bytes that have not arrived are no error: the viewer
draws placeholders and asks again.
-/

namespace HexEditor

inductive Invalid
  | emptyRow
  | wideRow (bytes limit : Nat)
  | emptyColumn
  | wideColumn (bytes row : Nat)
  | spacing (limit : Nat)
  | flatFont
  | largeFont (limit : Nat)
  | tallGlyph
  | noSuchLayer (layer count : Nat)
  | emptySpan
  | noSource
  | noLayer
  | noRetryInterval
deriving DecidableEq, Repr

inductive SourceFailure
  | notFetched (start stop : Nat)
  | read
  | write
deriving DecidableEq, Repr

inductive Error
  | invalid (reason : Invalid)
  | outOfRange (offset length : Nat)
  | readOnly
  | source (failure : SourceFailure)
deriving DecidableEq, Repr

def Invalid.message : Invalid → String
  | emptyRow => "bytes per row must be positive"
  | wideRow bytes limit => s!"bytes per row ({bytes}) can't exceed {limit}"
  | emptyColumn => "bytes per column must be positive"
  | wideColumn bytes row => s!"bytes per column ({bytes}) can't exceed bytes per row ({row})"
  | spacing limit => s!"column spacing must be in 1..={limit}"
  | flatFont => "font metrics must be positive"
  | largeFont limit => s!"font metrics can't exceed {limit}"
  | tallGlyph => "glyph height can't exceed the row height"
  | noSuchLayer layer count => s!"layer {layer} is outside 0..{count}"
  | emptySpan => "size must be positive"
  | noSource => "no data source"
  | noLayer => "at least one range layer is needed"
  | noRetryInterval => "retry interval must be positive"

def SourceFailure.message : SourceFailure → String
  | notFetched start stop =>
    "bytes 0x" ++ Hex.number start ++ "..0x" ++ Hex.number stop ++ " have not been fetched"
  | read => "read failed"
  | write => "write failed"

def Error.message : Error → String
  | invalid reason => "Invalid argument: " ++ reason.message
  | outOfRange offset length =>
    "Offset 0x" ++ Hex.number offset ++ " is outside the data (length 0x" ++
      Hex.number length ++ ")"
  | readOnly => "Data source is not editable"
  | source failure => "Data source error: " ++ failure.message

end HexEditor
