import HexEditor.Frame
import HexEditor.Stack

/-!
# Painting

A painting is a list of shapes, the ones behind first. The grid's painting follows its frame: panes,
separators, the hovered byte, addresses, cells and the caret.
-/

namespace HexEditor

inductive Shape
  | rect (bounds : Rect) (color : Color)
  | line (x₁ y₁ x₂ y₂ : Int) (color : Color)
  /-- A text at the left end of its baseline. -/
  | text (x baseline : Int) (text : String) (color : Color)
  /-- The note that bytes are being waited for. -/
  | waiting
deriving DecidableEq, Repr

/-- The color as it reaches the screen, where transparent colors are all alike. -/
def Color.painted (c : Color) : Color :=
  if c.a = 0 then ⟨0, 0, 0, 0⟩ else c

namespace Shape

def fill (bounds : Rect) (color : Color) : Shape :=
  rect bounds color.painted

def column (left right : Int) (height : Nat) (color : Color) : Shape :=
  fill ⟨left, 0, right - left, height⟩ color

def write (x baseline : Int) (content : String) (color : Color) : Shape :=
  text x baseline content color.painted

end Shape

namespace Frame

variable (f : Frame) (palette : Palette) (height : Nat)

def paneShapes : List Shape :=
  let p := f.panes
  let separator (x : Int) := Shape.line x 0 x height palette.separator.painted
  [ .column p.offsetsLeft p.hexLeft height palette.offsetBackground,
    .column p.hexLeft p.textLeft height palette.hexBackground,
    .column p.textLeft p.contentRight height palette.textBackground,
    separator p.textLeft, separator p.contentRight ]

def labelShapes : List Shape :=
  let color := if f.status = .defined then palette.offsetForeground else palette.disabled
  f.offsets.map fun label => .write label.x label.baseline label.text color

def shapes : List Shape :=
  f.paneShapes palette height
    ++ f.hover.map (Shape.fill · palette.hover)
    ++ f.labelShapes palette
    ++ f.cells.flatMap (fun cell =>
        (cell.style.background.map (Shape.fill cell.bounds)).toList
          ++ [.write cell.x cell.baseline cell.text cell.style.foreground])
    ++ (f.caret.map (Shape.fill · palette.caret)).toList
    ++ if f.status = .undefined then [.waiting] else []

end Frame

namespace StackFrame

def markColor : Color := ⟨200, 40, 40, 255⟩

def shapes (f : StackFrame) (palette : Palette) (height : Nat) : List Shape :=
  let (labelColor, valueColor) :=
    match f.status with
    | .defined => (palette.offsetForeground, Color.black)
    | .undefined => (palette.disabled, palette.disabled)
  .column 0 f.addressRight height palette.offsetBackground ::
    f.rows.flatMap fun row =>
      (row.mark.map (Shape.fill · markColor)).toList
        ++ [.write row.labelX row.baseline row.label labelColor,
          .write row.valueX row.baseline row.value valueColor]

end StackFrame

end HexEditor
