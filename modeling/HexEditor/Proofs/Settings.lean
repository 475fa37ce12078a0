import HexEditor.Proofs.Folder
import HexEditor.Proofs.Json.Deleted
import HexEditor.Proofs.Layout
import HexEditor.Settings
import Mathlib.Algebra.Group.Int.Defs
import Mathlib.Algebra.Group.Nat.Defs

/-!
# Settings in a file

Settings that were saved are loaded again. Where members are deleted from the file, the settings
that are loaded have the defaults of the deleted fields, unless these do not go with what is left.
-/

namespace HexEditor

structure Settings.Valid (s : Settings) : Prop where
  layout : s.layout.Valid
  layerCount_pos : 0 < s.layerCount
  retryInterval_pos : 0 < s.retryInterval

theorem Settings.validate_of_layout {s : Settings} (h : s.layout.validate = .ok ()) :
    s.validate = if s.layerCount = 0 then .error (.invalid .noLayer)
      else if s.retryInterval = 0 then .error (.invalid .noRetryInterval) else .ok () := by
  rw [validate, h]
  by_cases hcount : s.layerCount = 0
  · simp [hcount, bind, Except.bind, throw, throwThe, MonadExceptOf.throw]
  · simp [hcount, bind, Except.bind, pure, Except.pure, throw, throwThe, MonadExceptOf.throw]

theorem Settings.validate_ok {s : Settings} : s.validate = .ok () ↔ s.Valid := by
  cases h : s.layout.validate with
  | error e =>
    have hlayout : ¬ s.layout.Valid := by simp [← Layout.validate_ok, h]
    have hvalidate : s.validate = .error e := by rw [validate, h]; rfl
    rw [hvalidate]
    exact ⟨nofun, fun hs => absurd hs.layout hlayout⟩
  | ok _ =>
    rw [validate_of_layout h]
    constructor
    · intro hok
      split at hok
      next => cases hok
      next hcount =>
        split at hok
        next => cases hok
        next hinterval =>
          exact ⟨Layout.validate_ok.mp h, Nat.pos_of_ne_zero hcount, Nat.pos_of_ne_zero hinterval⟩
    · rintro ⟨-, hcount, hinterval⟩
      rw [if_neg (Nat.ne_of_gt hcount), if_neg (Nat.ne_of_gt hinterval)]

-- ---------------------------------------------------------------------------
-- Deleted fields
-- ---------------------------------------------------------------------------

/-- The paths of the members that a settings file may leave out. -/
inductive Settings.Optional : List String → Prop
  | field (name : String) : Optional [name]
  | layout (name : String) : Optional ["layout", name]
  | palette (name : String) : Optional ["palette", name]
  | opacity (name : String) : Optional ["palette", name, "a"]

section

-- What is read where some fields are gone: `filled` puts their defaults in.
variable (gone : List String → Bool)

def Color.filled (c : Color) : Color :=
  { c with a := if gone ["a"] then 255 else c.a }

def Layout.filled (l : Layout) : Layout :=
  let base : Layout := {}
  { bytesPerRow := if gone ["bytes_per_row"] then base.bytesPerRow else l.bytesPerRow
    bytesPerColumn := if gone ["bytes_per_column"] then base.bytesPerColumn else l.bytesPerColumn
    columnSpacing := if gone ["column_spacing"] then base.columnSpacing else l.columnSpacing
    addressWidth := if gone ["address_mode"] then base.addressWidth else l.addressWidth
    flipBytes := if gone ["flip_bytes"] then base.flipBytes else l.flipBytes
    baseAddress := if gone ["base_address"] then base.baseAddress else l.baseAddress }

def Palette.filled (p : Palette) : Palette :=
  let base : Palette := {}
  let color (name : String) (fallback c : Color) : Color :=
    if gone [name] then fallback else c.filled fun path => gone (name :: path)
  { offsetBackground := color "offset_background" base.offsetBackground p.offsetBackground
    hexBackground := color "hex_background" base.hexBackground p.hexBackground
    textBackground := color "text_background" base.textBackground p.textBackground
    offsetForeground := color "offset_foreground" base.offsetForeground p.offsetForeground
    hexForeground := color "hex_foreground" base.hexForeground p.hexForeground
    hexForegroundAlt := color "hex_foreground_alt" base.hexForegroundAlt p.hexForegroundAlt
    textForeground := color "text_foreground" base.textForeground p.textForeground
    selection := color "selection" base.selection p.selection
    hover := color "hover" base.hover p.hover
    disabled := color "disabled" base.disabled p.disabled
    separator := color "separator" base.separator p.separator
    caret := color "caret" base.caret p.caret }

def Settings.filled (s : Settings) : Settings :=
  let base : Settings := {}
  { layout := if gone ["layout"] then base.layout
      else s.layout.filled fun path => gone ("layout" :: path)
    palette := if gone ["palette"] then base.palette
      else s.palette.filled fun path => gone ("palette" :: path)
    retryInterval := if gone ["retry_interval_ms"] then base.retryInterval else s.retryInterval
    layerCount := if gone ["layer_count"] then base.layerCount else s.layerCount }

theorem Color.channel?_ofNat (n : UInt8) : channel? (.ofNat n.toNat) = some n := by
  rw [channel?, Json.nat?_ofNat n.toNat_lt]
  simp

theorem Color.optional_channel? (n fallback : UInt8) :
    Json.optional channel? fallback (Json.remains gone (name, .ofNat n.toNat)) =
      some (if gone [name] then fallback else n) :=
  Json.optional_remains gone (by simpa using channel?_ofNat n) fallback

theorem Color.ofJson?_without (c : Color) (hgone : ∀ path, gone path → path = [] ∨ path = ["a"]) :
    ofJson? (c.toJson.without gone) = some (c.filled gone) := by
  have hr : gone ["r"] = false := by simpa using mt (hgone ["r"]) (by decide)
  have hg : gone ["g"] = false := by simpa using mt (hgone ["g"]) (by decide)
  have hb : gone ["b"] = false := by simpa using mt (hgone ["b"]) (by decide)
  rw [ofJson?, toJson, Json.fields?_without]
  · simp only [List.map_cons, List.map_nil, Option.bind_eq_bind, Option.bind_some,
      optional_channel?]
    simp [Json.remains, hr, hg, hb, channel?_ofNat, filled]
  · rfl
  · decide

theorem Color.optional_ofJson? (c fallback : Color)
    (hgone : ∀ path, gone (name :: path) → path = [] ∨ path = ["a"]) :
    Json.optional ofJson? fallback (Json.remains gone (name, c.toJson)) =
      some (if gone [name] then fallback else c.filled fun path => gone (name :: path)) :=
  Json.optional_remains gone (ofJson?_without _ c hgone) fallback

theorem AddressWidth.ofJson?_name (w : AddressWidth) : ofJson? (.ofText w.name) = some w := by
  cases w <;> rfl

theorem AddressWidth.optional_ofJson? (w fallback : AddressWidth) (field : String) :
    Json.optional ofJson? fallback (Json.remains gone (field, .ofText w.name)) =
      some (if gone [field] then fallback else w) :=
  Json.optional_remains gone (by simpa using ofJson?_name w) fallback

theorem Layout.ofJson?_without (l : Layout) (hl : l.Valid) (hbase : l.baseAddress < 2 ^ 64) :
    ofJson? (l.toJson.without gone) = some (l.filled gone) := by
  have hrow : l.bytesPerRow < 0x100000000 := by have := hl.row_le; omega
  have hcolumn : l.bytesPerColumn < 0x100000000 := by have := hl.column_le; omega
  have hspacing : l.columnSpacing < 0x100000000 := by have := hl.spacing_le; omega
  have hbase : l.baseAddress < 0x10000000000000000 := hbase
  rw [ofJson?, toJson, Json.fields?_without]
  · simp only [List.map_cons, List.map_nil, Option.bind_eq_bind, Option.bind_some,
      Json.optional_nat? gone hrow,
      Json.optional_nat? gone hcolumn, Json.optional_nat? gone hspacing,
        Json.optional_nat? gone hbase, Json.optional_bool?,
      AddressWidth.optional_ofJson?]
    rfl
  · rfl
  · decide

theorem Palette.ofJson?_without (p : Palette)
    (hgone : ∀ name path, gone (name :: path) → path = [] ∨ path = ["a"]) :
    ofJson? (p.toJson.without gone) = some (p.filled gone) := by
  rw [ofJson?, toJson, Json.fields?_without]
  · simp only [List.map_cons, List.map_nil, Option.bind_eq_bind, Option.bind_some,
      Color.optional_ofJson? gone _ _ (hgone _)]
    rfl
  · rfl
  · decide

end

namespace Settings

/-- The numbers that `validate` does not bound fit in 64 bits. -/
structure Fits (s : Settings) : Prop where
  baseAddress : s.layout.baseAddress < 2 ^ 64
  retryInterval : s.retryInterval < 2 ^ 64
  layerCount : s.layerCount < 2 ^ 64

/-- Members deleted from a settings file, all of which it may leave out. -/
structure Deletion where
  gone : List String → Bool
  optional : ∀ path, gone path → Optional path

variable {s : Settings}

theorem ofJson?_without (hl : s.layout.Valid) (hfits : s.Fits) (d : Deletion) :
    ofJson? (s.toJson.without d.gone) = some (s.filled d.gone) := by
  have hcolors (name : String) (path : List String) (h : d.gone ("palette" :: name :: path)) :
      path = [] ∨ path = ["a"] := by
    generalize hpath : "palette" :: name :: path = full at h
    cases d.optional full h <;> simp_all
  have hlayout :
      Json.optional Layout.ofJson? {} (Json.remains d.gone ("layout", s.layout.toJson)) = _ :=
    Json.optional_remains d.gone (Layout.ofJson?_without _ s.layout hl hfits.baseAddress) {}
  have hpalette :
      Json.optional Palette.ofJson? {} (Json.remains d.gone ("palette", s.palette.toJson)) = _ :=
    Json.optional_remains d.gone (Palette.ofJson?_without _ s.palette hcolors) {}
  have hinterval : s.retryInterval < 0x10000000000000000 := hfits.retryInterval
  have hcount : s.layerCount < 0x10000000000000000 := hfits.layerCount
  rw [ofJson?, toJson, Json.fields?_without]
  · simp only [List.map_cons, List.map_nil, Option.bind_eq_bind, Option.bind_some, hlayout,
      hpalette,
      Json.optional_nat? d.gone hinterval, Json.optional_nat? d.gone hcount]
    rfl
  · rfl
  · decide

def Deletion.nothing : Deletion :=
  ⟨fun _ => false, nofun⟩

def Deletion.member (h : Optional path) : Deletion :=
  ⟨(· == path), fun _ heq => beq_iff_eq.mp heq ▸ h⟩

theorem plain_toJson (s : Settings) : s.toJson.Plain := by
  have hcolor (c : Color) : c.toJson.Plain := by
    refine .object fun m hm => ?_
    simp only [List.mem_cons, List.not_mem_nil, or_false] at hm
    rcases hm with rfl | rfl | rfl | rfl <;> exact .number _
  have hlayout : s.layout.toJson.Plain := by
    refine .object fun m hm => ?_
    simp only [List.mem_cons, List.not_mem_nil, or_false] at hm
    rcases hm with rfl | rfl | rfl | rfl | rfl | rfl <;> constructor
  have hpalette : s.palette.toJson.Plain := by
    refine .object fun m hm => ?_
    simp only [List.mem_cons, List.not_mem_nil, or_false] at hm
    rcases hm with rfl | rfl | rfl | rfl | rfl | rfl | rfl | rfl | rfl | rfl | rfl | rfl <;>
      exact hcolor _
  refine .object fun m hm => ?_
  simp only [List.mem_cons, List.not_mem_nil, or_false] at hm
  rcases hm with rfl | rfl | rfl | rfl
  · exact hlayout
  · exact hpalette
  · exact .number _
  · exact .number _

/-- The only way for a deletion to make settings invalid is that the columns become wider than the
rows. -/
theorem valid_filled (hs : s.Valid) (gone : List String → Bool) :
    (s.filled gone).Valid ↔
    (s.filled gone).layout.bytesPerColumn ≤ (s.filled gone).layout.bytesPerRow := by
  refine ⟨fun h => h.layout.column_le, fun hcolumns => ?_⟩
  obtain ⟨⟨hrow, hrow', hcolumn, -, hspacing, hspacing'⟩, hcount, hinterval⟩ := hs
  refine ⟨⟨?_, ?_, ?_, hcolumns, ?_, ?_⟩, ?_, ?_⟩
  all_goals
    simp only [filled, Layout.filled]
    grind

theorem fromUTF8?_toUTF8 (text : String) : String.fromUTF8? ⟨text.toUTF8.data⟩ = some text := by
  change String.fromUTF8? text.toByteArray = some text
  rw [String.fromUTF8?, dif_pos text.isValidUTF8]
  rfl

theorem load_text (hread : folder.read path = .ok text.toUTF8.data)
    (htext : (Json.parse? text).bind ofJson? = some s) :
    (s.validate = .ok () → load folder path = .ok s) ∧
      ∀ e, s.validate = .error e → load folder path = .error (.invalid e) := by
  simp only [load, hread, decode, fromUTF8?_toUTF8, htext]
  constructor
  · intro hok
    rw [hok]
  · intro e herror
    rw [herror]

/-- What was saved is read as it was. The file is refused only if the settings were invalid when
they were saved. -/
theorem load_of_save (hl : s.layout.Valid) (hfits : s.Fits)
    (hsave : s.save folder path = .ok saved) :
    (s.validate = .ok () → load saved path = .ok s) ∧
      ∀ e, s.validate = .error e → load saved path = .error (.invalid e) := by
  refine load_text (Folder.read_of_write hsave) ?_
  have hread := ofJson?_without hl hfits .nothing
  rw [Deletion.nothing, (plain_toJson s).without_nothing] at hread
  rw [Json.parse?_pretty (plain_toJson s)]
  exact hread

/-- Settings that were saved are loaded again, and a file that can be read can be saved to. Where
members are deleted from the file, their defaults are loaded instead, unless the columns then are
wider than the rows. -/
theorem load_saved (s : Settings) (hvalid : s.validate = .ok ()) (hfits : s.Fits) :
    (∀ folder path saved, s.save folder path = .ok saved → load saved path = .ok s) ∧
    (∀ folder path old, folder.read path = .ok old → ∃ saved, s.save folder path = .ok saved) ∧
    ∀ d : Deletion,
      Json.parse? (s.toJson.without d.gone).pretty = some (s.toJson.without d.gone) ∧
      ((s.filled d.gone).validate = .ok () ↔
        (s.filled d.gone).layout.bytesPerColumn ≤ (s.filled d.gone).layout.bytesPerRow) ∧
      ∀ folder path text, folder.read path = .ok text.toUTF8.data →
        Json.parse? text = some (s.toJson.without d.gone) →
        ((s.filled d.gone).validate = .ok () → load folder path = .ok (s.filled d.gone)) ∧
        ∀ e, (s.filled d.gone).validate = .error e → load folder path = .error (.invalid e) := by
  have hs := validate_ok.mp hvalid
  refine ⟨fun folder path saved hsave => ?_, fun folder path old hold => ?_, fun d => ⟨?_, ?_, ?_⟩⟩
  · exact (load_of_save hs.layout hfits hsave).1 hvalid
  · exact Folder.exists_write_of_read hold s.encode
  · exact Json.parse?_pretty ((plain_toJson s).without d.gone)
  · exact validate_ok.trans (valid_filled hs d.gone)
  · intro folder path text hread hparse
    refine load_text hread ?_
    rw [hparse]
    exact ofJson?_without hs.layout hfits d

/-- Without its row size, a file whose columns are as wide as its rows is refused, until the
settings are saved again. -/
theorem load_saved_wideColumn :
    let s : Settings := { layout := { bytesPerRow := 32, bytesPerColumn := 32 } }
    let text := (s.toJson.without (Deletion.member (.layout "bytes_per_row")).gone).pretty
    let folder : Folder := ⟨[("settings.json", text.toUTF8.data)]⟩
    s.validate = .ok () ∧ s.Fits ∧
      load folder "settings.json" = .error (.invalid (.invalid (.wideColumn 32 16))) ∧
      ∃ saved, s.save folder "settings.json" = .ok saved ∧ load saved "settings.json" = .ok s := by
  intro s text folder
  have hfits : s.Fits := ⟨by decide, by decide, by decide⟩
  have hread : folder.read "settings.json" = .ok text.toUTF8.data := rfl
  obtain ⟨hload, hsave, hdeleted⟩ := load_saved s rfl hfits
  obtain ⟨hprinted, -, hrefused⟩ := hdeleted (.member (.layout "bytes_per_row"))
  obtain ⟨saved, hsaved⟩ := hsave folder "settings.json" _ hread
  exact ⟨rfl, hfits, (hrefused folder _ text hread hprinted).2 _ rfl, saved, hsaved,
    hload folder _ saved hsaved⟩

end Settings

end HexEditor
