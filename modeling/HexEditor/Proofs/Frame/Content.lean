import HexEditor.Proofs.Frame.Cells
import HexEditor.Proofs.Grid.Flip

/-!
# What the cells of a frame show

Each position on screen has a hex cell and then a text cell. The bytes that are drawn are those of
the positions on screen, in another order if columns are reversed; so a frame that has the bytes
from the first position on shows every one of them.
-/

namespace HexEditor

def upperDigits : List Char :=
  ['0', '1', '2', '3', '4', '5', '6', '7', '8', '9', 'A', 'B', 'C', 'D', 'E', 'F']

/-- How a byte is written in a pane: with two digits, or as the character that it stands for, if
that can be printed. -/
def Pane.Writes (pane : Pane) (b : UInt8) (text : String) : Prop :=
  match pane with
  | .offsets => False
  | .hex =>
    ∃ high low, upperDigits[b.toNat / 16]? = some high ∧ upperDigits[b.toNat % 16]? = some low ∧
      text = String.ofList [high, low]
  | .text =>
    text = if 0x20 ≤ b.toNat ∧ b.toNat ≤ 0x7E then String.singleton (Char.ofNat b.toNat) else "."

theorem upperDigits_digit (h : d < 16) : upperDigits[d]? = some (Hex.digit d) := by
  have hdigits : ∀ d : Fin 16, upperDigits[d.val]? = some (Hex.digit d) := by decide
  exact hdigits ⟨d, h⟩

theorem writes_byte (b : UInt8) : Pane.hex.Writes b (Hex.byte b) :=
  ⟨_, _, upperDigits_digit (by have := b.toNat_lt; omega), upperDigits_digit (by omega), rfl⟩

theorem isPrintable_iff {b : UInt8} : isPrintable b = true ↔ 0x20 ≤ b.toNat ∧ b.toNat ≤ 0x7E := by
  simp [isPrintable, UInt8.le_iff_toNat_le]

theorem writes_byteText (b : UInt8) : Pane.text.Writes b (byteText b) := by
  simp only [Pane.Writes, byteText, isPrintable_iff]

namespace Scene

variable {s : Scene}

theorem cells_places :
    s.cells.map (fun c => (c.pane, c.position, c.offset)) =
      s.grid.shownPositions.flatMap fun p =>
        [(.hex, p, s.grid.flip p), (.text, p, s.grid.flip p)] := by
  rw [Grid.shownPositions, List.range'_eq_map_range, List.flatMap_map, cells, List.map_flatMap]
  rfl

theorem filter_hex :
    s.cells.filter (·.pane = .hex) = (List.range s.grid.shownBytes).map s.hexCell := by
  rw [cells, List.filter_flatMap, List.map_eq_flatMap]
  rfl

theorem hex_offsets_perm (hl : s.grid.layout.Valid) :
    ((s.cells.filter (·.pane = .hex)).map (·.offset)).Perm s.grid.shownPositions := by
  have hoffsets : (s.cells.filter (·.pane = .hex)).map (·.offset) =
    s.grid.shownPositions.map s.grid.flip := by
    rw [filter_hex, Grid.shownPositions, List.range'_eq_map_range, List.map_map, List.map_map]
    rfl
  rw [hoffsets]
  exact Grid.flip_perm hl

section
variable {bytes : Bytes} (hl : s.grid.layout.Valid) (hlength : s.grid.length = bytes.size)
  (hdata : s.data = some (bytes.extract s.grid.firstByte (s.grid.firstByte + s.grid.shownBytes)))
include hl hlength hdata

theorem byteAt?_flip (hp : p ∈ s.grid.shownPositions) :
    ∃ b, bytes[s.grid.flip p]? = some b ∧ s.byteAt? (s.grid.flip p) = some b := by
  have hoffset := Grid.flip_mem_shownPositions hl hp
  have hlt := (Grid.mem_shownPositions.mp hoffset).2.2
  rw [Grid.shownPositions, List.mem_range'_1] at hoffset
  refine ⟨_, Array.getElem?_eq_getElem (by omega), ?_⟩
  rw [byteAt?, hdata, Option.bind_some, Array.getElem?_extract, if_pos (by omega),
    Nat.add_sub_cancel' hoffset.1, Array.getElem?_eq_getElem]

theorem cell_writes (hc : c ∈ s.cells) :
    ∃ b, bytes[c.offset]? = some b ∧ c.pane.Writes b c.text := by
  obtain ⟨i, hi, hcell⟩ := mem_cells.mp hc
  obtain ⟨b, hb, hshown⟩ := byteAt?_flip hl hlength hdata
    (p := s.grid.firstByte + i) (by rw [Grid.shownPositions, List.mem_range'_1]; omega)
  rcases hcell with rfl | rfl
  · refine ⟨b, hb, ?_⟩
    simp only [hexCell, hshown, Option.elim_some]
    exact writes_byte b
  · refine ⟨b, hb, ?_⟩
    simp only [textCell, hshown, Option.elim_some]
    exact writes_byteText b

end

end Scene

end HexEditor
