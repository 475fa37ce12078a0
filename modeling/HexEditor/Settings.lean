import HexEditor.Folder
import HexEditor.Json
import HexEditor.View

/-!
# Settings

What a viewer keeps from one run to the next, as a JSON file. Fields that the file leaves out take
their defaults; fields that it does not know are ignored.
-/

namespace HexEditor

structure Settings where
  layout : Layout := {}
  palette : Palette := {}
  /-- Milliseconds between two polls for missing bytes. -/
  retryInterval : Nat := 1000
  layerCount : Nat := 10
deriving DecidableEq, Repr, Inhabited

def Settings.validate (s : Settings) : Except Error Unit := do
  s.layout.validate
  if s.layerCount = 0 then throw (.invalid .noLayer)
  if s.retryInterval = 0 then throw (.invalid .noRetryInterval)

-- ---------------------------------------------------------------------------
-- Writing
-- ---------------------------------------------------------------------------

def AddressWidth.name : AddressWidth → String
  | bits32 => "Bit32"
  | bits64 => "Bit64"

def Color.toJson (c : Color) : Json :=
  .ofMembers [
    ("r", .ofNat c.r.toNat),
    ("g", .ofNat c.g.toNat),
    ("b", .ofNat c.b.toNat),
    ("a", .ofNat c.a.toNat)]

def Layout.toJson (l : Layout) : Json :=
  .ofMembers [
    ("bytes_per_row", .ofNat l.bytesPerRow),
    ("bytes_per_column", .ofNat l.bytesPerColumn),
    ("column_spacing", .ofNat l.columnSpacing),
    ("address_mode", .ofText l.addressWidth.name),
    ("flip_bytes", .bool l.flipBytes),
    ("base_address", .ofNat l.baseAddress)]

def Palette.toJson (p : Palette) : Json :=
  .ofMembers [
    ("offset_background", p.offsetBackground.toJson),
    ("hex_background", p.hexBackground.toJson),
    ("text_background", p.textBackground.toJson),
    ("offset_foreground", p.offsetForeground.toJson),
    ("hex_foreground", p.hexForeground.toJson),
    ("hex_foreground_alt", p.hexForegroundAlt.toJson),
    ("text_foreground", p.textForeground.toJson),
    ("selection", p.selection.toJson),
    ("hover", p.hover.toJson),
    ("disabled", p.disabled.toJson),
    ("separator", p.separator.toJson),
    ("caret", p.caret.toJson)]

def Settings.toJson (s : Settings) : Json :=
  .ofMembers [
    ("layout", s.layout.toJson),
    ("palette", s.palette.toJson),
    ("retry_interval_ms", .ofNat s.retryInterval),
    ("layer_count", .ofNat s.layerCount)]

-- ---------------------------------------------------------------------------
-- Reading
-- ---------------------------------------------------------------------------

/-- The name, alone or as the only member of an object, with the value `null`. -/
def AddressWidth.ofJson? : Json → Option AddressWidth
  | .string (some "Bit32") => some .bits32
  | .string (some "Bit64") => some .bits64
  | .object [(some "Bit32", .null)] => some .bits32
  | .object [(some "Bit64", .null)] => some .bits64
  | _ => none

def Color.channel? (j : Json) : Option UInt8 :=
  (j.nat? 0x100).map Nat.toUInt8

def Color.ofJson? (j : Json) : Option Color := do
  let [r, g, b, a] ← j.fields? ["r", "g", "b", "a"] | none
  return { r := ← channel? (← r), g := ← channel? (← g), b := ← channel? (← b)
           a := ← Json.optional channel? 255 a }

def Layout.ofJson? (j : Json) : Option Layout := do
  let base : Layout := {}
  let [row, column, spacing, width, flip, address] ← j.fields?
    ["bytes_per_row", "bytes_per_column", "column_spacing", "address_mode", "flip_bytes",
      "base_address"]
    | none
  return {
    bytesPerRow := ← Json.optional (Json.nat? 0x100000000) base.bytesPerRow row
    bytesPerColumn := ← Json.optional (Json.nat? 0x100000000) base.bytesPerColumn column
    columnSpacing := ← Json.optional (Json.nat? 0x100000000) base.columnSpacing spacing
    addressWidth := ← Json.optional AddressWidth.ofJson? base.addressWidth width
    flipBytes := ← Json.optional Json.bool? base.flipBytes flip
    baseAddress := ← Json.optional (Json.nat? 0x10000000000000000) base.baseAddress address }

def Palette.ofJson? (j : Json) : Option Palette := do
  let base : Palette := {}
  let color := Json.optional Color.ofJson?
  let [offsetBackground, hexBackground, textBackground, offsetForeground, hexForeground,
    hexForegroundAlt,
      textForeground, selection, hover, disabled, separator, caret] ← j.fields?
    ["offset_background", "hex_background", "text_background", "offset_foreground",
      "hex_foreground",
      "hex_foreground_alt", "text_foreground", "selection", "hover", "disabled", "separator",
        "caret"]
    | none
  return {
    offsetBackground := ← color base.offsetBackground offsetBackground
    hexBackground := ← color base.hexBackground hexBackground
    textBackground := ← color base.textBackground textBackground
    offsetForeground := ← color base.offsetForeground offsetForeground
    hexForeground := ← color base.hexForeground hexForeground
    hexForegroundAlt := ← color base.hexForegroundAlt hexForegroundAlt
    textForeground := ← color base.textForeground textForeground
    selection := ← color base.selection selection
    hover := ← color base.hover hover
    disabled := ← color base.disabled disabled
    separator := ← color base.separator separator
    caret := ← color base.caret caret }

def Settings.ofJson? (j : Json) : Option Settings := do
  let base : Settings := {}
  let [layout, palette, interval, count] ← j.fields?
    ["layout", "palette", "retry_interval_ms", "layer_count"]
    | none
  return {
    layout := ← Json.optional Layout.ofJson? base.layout layout
    palette := ← Json.optional Palette.ofJson? base.palette palette
    retryInterval := ← Json.optional (Json.nat? 0x10000000000000000) base.retryInterval interval
    layerCount := ← Json.optional (Json.nat? 0x10000000000000000) base.layerCount count }

-- ---------------------------------------------------------------------------
-- Files
-- ---------------------------------------------------------------------------

inductive SettingsError
  | unreadable
  | malformed
  | invalid (e : Error)
deriving DecidableEq, Repr

def SettingsError.message (path : String) : SettingsError → String
  | unreadable => "failed to read config " ++ path
  | malformed => "failed to parse config " ++ path
  | invalid e => "invalid settings in " ++ path ++ ": " ++ e.message

namespace Settings

def decode (content : Bytes) : Except SettingsError Settings :=
  match String.fromUTF8? ⟨content⟩ with
  | none => .error .unreadable
  | some text =>
    match (Json.parse? text).bind ofJson? with
    | none => .error .malformed
    | some s =>
      match s.validate with
      | .ok () => .ok s
      | .error e => .error (.invalid e)

def encode (s : Settings) : Bytes :=
  s.toJson.pretty.toUTF8.data

def load (folder : Folder) (path : String) : Except SettingsError Settings :=
  match folder.read path with
  | .ok content => decode content
  | .error _ => .error .unreadable

def save (s : Settings) (folder : Folder) (path : String) : Except FileError Folder :=
  folder.write path s.encode

end Settings

def View.ofSettings (s : Settings) : Except Error (View σ) := do
  s.validate
  return {
    layout := s.layout
    palette := s.palette
    layers := Layers.ofCount s.layerCount
    poller := { interval := s.retryInterval } }

/-- The settings of a view. A longer interval is cut to 64 bits. -/
def View.settings (v : View σ) : Settings :=
  { layout := v.layout
    palette := v.palette
    retryInterval := v.poller.interval % 0x10000000000000000
    layerCount := v.layers.count }

end HexEditor
