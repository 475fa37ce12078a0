namespace HexEditor

structure Color where
  r : UInt8
  g : UInt8
  b : UInt8
  a : UInt8 := 255
deriving DecidableEq, Repr, Inhabited

namespace Color

def white : Color := ⟨255, 255, 255, 255⟩
def black : Color := ⟨0, 0, 0, 255⟩
def gray : Color := ⟨128, 128, 128, 255⟩
def lightGray : Color := ⟨192, 192, 192, 255⟩
def blue : Color := ⟨0, 0, 255, 255⟩
def yellow : Color := ⟨255, 255, 0, 255⟩

/-- The opaque color written `0xRRGGBB`; higher digits are ignored. -/
def ofRgb (rgb : Nat) : Color :=
  ⟨(rgb / 0x10000).toUInt8, (rgb / 0x100).toUInt8, rgb.toUInt8, 255⟩

end Color

structure Palette where
  offsetBackground : Color := .gray
  hexBackground : Color := .white
  textBackground : Color := .white
  offsetForeground : Color := .white
  /-- Digits of the first, third, … column. -/
  hexForeground : Color := .blue
  /-- Digits of the second, fourth, … column. -/
  hexForegroundAlt : Color := .ofRgb 0x3399FF
  textForeground : Color := .ofRgb 0x339900
  selection : Color := .yellow
  hover : Color := .lightGray
  disabled : Color := .gray
  separator : Color := .black
  caret : Color := .black
deriving DecidableEq, Repr, Inhabited

end HexEditor
