import HexEditor.Layout
import HexEditor.Rational
import HexEditor.Window.Keyboard

/-!
# Zoom

How large the window shows everything, in tenths, and what that does to the font and to the lengths
of a window. Fonts are drawn in whole pixels, so that characters and lines are not equally large at
every zoom. Lengths are kept in single precision.
-/

namespace HexEditor

structure Zoom where
  tenths : Nat := 10
  two_le : 2 ≤ tenths := by decide
  le_fifty : tenths ≤ 50 := by decide
deriving DecidableEq, Repr

namespace Zoom

variable (z : Zoom)

def actual : Zoom := {}

def larger : Zoom :=
  ⟨min 50 (z.tenths + 1), by have := z.two_le; omega, by omega⟩

def smaller : Zoom :=
  ⟨max 2 (z.tenths - 1), by omega, by have := z.le_fifty; omega⟩

def after (press : KeyPress) : Zoom :=
  if press.command then
    match press.key with
    | .plus | .equals => z.larger
    | .minus => z.smaller
    | .zero => actual
    | _ => z
  else z

def factor : Rat :=
  single (z.tenths / 10)

/-- A length of the window when the zoom has changed and the screen has not. -/
def convert (old new : Zoom) (length : Nat) : Rat :=
  if old = new then length else single (single (old.factor / new.factor) * length)

def fontSize : Nat := 13

def plainSize : Nat := 12

def sizeUnits : Nat := 2048

def lineUnits : Nat := 2384

def charUnits : Nat := 1233

/-- Height of a line of a font in whole pixels of the screen. -/
def linePixels (size : Nat) : Nat :=
  (roundAway (size * lineUnits * z.tenths / (sizeUnits * 10))).toNat

/-- Fonts that have as many pixels to a line are one, the one for plain text. -/
def loadedSize : Nat :=
  if z.linePixels plainSize = z.linePixels fontSize then plainSize else fontSize

/-- Measurements of the font of the grid. A character is as wide as it is drawn with whole pixels
for a line; its height is four fifths of the font's size. -/
def font : Metrics where
  charWidth := (charUnits * z.linePixels fontSize * 10 / (lineUnits * z.tenths) : Rat).ceil.toNat
  charHeight := (fontSize * 4 / 5 : Rat).ceil.toNat
  rowHeight := (z.loadedSize * lineUnits / sizeUnits : Rat).ceil.toNat

end Zoom

end HexEditor
