import HexEditor.Proofs.View.Overwriting
import HexEditor.Proofs.Viewport.Reach

/-!
# The caret stands on what is overwritten

The caret is placed by nibbles, cells by bytes and columns, and a character goes to the offset of a
position. `caret_on_typed`: they agree. A caret on screen stands in front of a digit or a character
of the cell at its position, in the pane that is typed into, and a character overwrites the byte
that this cell shows. The caret is on screen exactly if its row is.
-/

namespace HexEditor

def Pane.typed (pane : Pane) : Pane :=
  if pane = .text then .text else .hex

namespace Grid

variable {g : Grid}

-- ---------------------------------------------------------------------------
-- Place of the caret
-- ---------------------------------------------------------------------------

/-- From the left edge of a cell to the place of a nibble in it. -/
def caretShift (g : Grid) (nibble : Nat) (pane : Pane) : Int :=
  if pane = .text then 0 else (nibble % 2 : Nat) * g.charWidth

theorem digitLeft_half (hc : 0 < g.layout.bytesPerColumn) (k : Nat) :
    g.digitLeft k = g.digitLeft (2 * (k / 2)) + k % 2 * g.metrics.charWidth := by
  obtain heven | hodd := Nat.mod_two_eq_zero_or_one k
  · rw [heven, Nat.zero_mul, Nat.add_zero, Nat.mul_div_cancel' (Nat.dvd_of_mod_eq_zero heven)]
  · have hk : k = 2 * (k / 2) + 1 := by omega
    rw [hodd, Nat.one_mul, ← digitLeft_low hc, ← hk]

namespace Valid

variable (hg : g.Valid)
include hg

theorem digit_eq (hk : k < 2 * g.layout.bytesPerRow) :
    g.hexPaneLeft + paddingLeft + g.digitLeft k =
      g.hexCellX (k / 2) + (k % 2 : Nat) * g.charWidth := by
  rw [hg.hexCellX_eq (by omega), digitLeft_half hg.layout.column_pos, hg.charWidth_eq,
    Int.natCast_add, Int.natCast_mul,
    Int.add_assoc _ _ (_ * _)]

theorem caretBounds_nibbleIn (hrow : row < g.visibleRows) (hk : k < 2 * g.layout.bytesPerRow)
    (pane : Pane) :
    g.caretBounds (g.nibbleIn row k) pane =
      ⟨g.cellX (k / 2) pane + g.caretShift k pane - 1, g.rowTop row - 1, 2, g.glyphHeight + 2⟩ := by
  have hglyph (x y : Int) : ¬ Rect.IsEmpty ⟨x, y, g.charWidth, g.glyphHeight⟩ := by
    have hwidth := hg.charWidth_pos
    have hheight := hg.glyphHeight_pos
    simp only [Rect.IsEmpty]
    omega
  rw [caretBounds, textBounds_nibbleIn hrow hk, hg.nibbleBounds_nibbleIn hrow hk, hg.digit_eq hk]
  cases pane with
  | text => simp [hglyph, cellX, caretShift]
  | _ => simp [hglyph, cellX, caretShift]

theorem add_caretShift (n : Nat) (pane : Pane) (x : Int) :
    x + g.caretShift n pane - 1 = if pane = .text then x - 1
      else x + (n % 2 : Nat) * g.metrics.charWidth - 1 := by
  rw [caretShift, hg.charWidth_eq]
  split
  · rw [Int.add_zero]
  · rfl

theorem caretBounds_isEmpty_iff (pane : Pane) :
    (g.caretBounds n pane).IsEmpty ↔ ¬ g.NibbleVisible n := by
  by_cases hvisible : g.NibbleVisible n
  · obtain ⟨row, hrow, k, hk, rfl⟩ := (visible_iff hg.layout.row_pos).mp hvisible
    have hheight := hg.glyphHeight_pos
    simp only [hg.caretBounds_nibbleIn hrow hk, hvisible, Rect.IsEmpty, not_true_eq_false,
      iff_false]
    omega
  · have hnibble : g.nibbleBounds n = .nowhere := if_neg hvisible
    have htext : g.textBounds n = .nowhere := if_neg hvisible
    have hempty : Rect.nowhere.IsEmpty := by decide
    simp [caretBounds, hnibble, htext, hempty, hvisible]

end Valid

end Grid

namespace Scene

variable {s : Scene}

theorem caretRect?_eq_some_iff (hg : s.grid.Valid) :
    s.caretRect? = some rect ↔
      s.data.isSome ∧ s.showCaret ∧ s.grid.NibbleVisible s.selection.caret ∧
        rect = s.grid.caretBounds s.selection.caret s.activePane := by
  have hplace := hg.caretBounds_isEmpty_iff (n := s.selection.caret) s.activePane
  simp only [caretRect?, hplace, Decidable.not_not]
  split
  · rename_i hshown
    simp [hshown, eq_comm]
  · rename_i hshown
    simp only [reduceCtorEq, false_iff]
    exact fun h => hshown ⟨h.1, h.2.1, h.2.2.1⟩

theorem status_eq_defined_iff : s.compose.status = .defined ↔ s.data.isSome = true := by
  simp [compose, Option.isSome_iff_ne_none]

theorem eq_cell (hc : c ∈ s.cells) (hpane : c.pane = pane.typed)
    (hposition : c.position = s.grid.firstByte + i) :
    c = s.cell i pane := by
  obtain ⟨j, -, hcell⟩ := mem_cells.mp hc
  have hj := position_of_cell hcell
  obtain rfl : j = i := by omega
  obtain rfl | rfl := hcell
  · cases pane with
    | text => cases hpane
    | _ => rfl
  · cases pane with
    | text => rfl
    | _ => cases hpane

theorem cell_pane (s : Scene) (i : Nat) (pane : Pane) : (s.cell i pane).pane = pane.typed := by
  cases pane <;> rfl

theorem caret_on_cell (hg : s.grid.Valid) (hdata : s.selection.caret < 2 * s.grid.length)
    (hcaret : s.caretRect? = some rect) :
    (∃ c ∈ s.cells, c.pane = s.activePane.typed ∧ c.position = s.selection.caret / 2) ∧
      ∀ c ∈ s.cells, c.pane = s.activePane.typed → c.position = s.selection.caret / 2 →
        rect.x = c.x + s.grid.caretShift s.selection.caret s.activePane - 1 ∧
          rect.y = c.bounds.y - 1 ∧
          c.offset = s.grid.flip (s.selection.caret / 2) := by
  obtain ⟨-, -, hvisible, rfl⟩ := (caretRect?_eq_some_iff hg).mp hcaret
  obtain ⟨row, hrow, k, hk, hn⟩ := (Grid.visible_iff hg.layout.row_pos).mp hvisible
  rw [hn] at hdata ⊢
  obtain ⟨i, hi, rfl, hinRow, hbyte⟩ := Grid.exists_shown_byte hrow hk hdata
  rw [hbyte, hg.caretBounds_nibbleIn hrow hk]
  refine ⟨⟨_, cell_mem hi s.activePane, s.cell_pane i _, s.cell_position i _⟩, ?_⟩
  intro c hc hpane hposition
  obtain rfl := eq_cell hc hpane hposition
  have hshift : s.grid.caretShift (s.grid.nibbleIn (i / s.grid.layout.bytesPerRow) k) s.activePane =
      s.grid.caretShift k s.activePane := by
    rw [Grid.caretShift, (Grid.nibbleIn_half _ k).1]
    rfl
  rw [hshift, ← hinRow]
  cases s.activePane <;> exact ⟨rfl, rfl, rfl⟩

end Scene

namespace View

theorem showCaret_eq [ByteSource σ] (v : View σ) (data : Option Bytes) :
    (v.scene data).showCaret = true ↔ v.focused = true ∧ v.enabled = true ∧
    v.source.isSome = true := by
  simp [scene, and_assoc]

/-- In a view that has the keyboard, the caret of a defined frame is seen if its row is. -/
theorem caret_isSome_iff [ByteSource σ] {v : View σ} (hg : v.grid.Valid)
    (hfocused : v.focused = true) (henabled : v.enabled = true) (hsource : v.source.isSome = true)
    (hdefined : (v.render now).1.status = .defined) :
    (v.render now).1.caret.isSome = true ↔
      v.grid.firstRow ≤ v.caret / (2 * v.layout.bytesPerRow) ∧
        v.caret / (2 * v.layout.bytesPerRow) < v.grid.firstRow + v.grid.visibleRows := by
  have hdata : (v.fetch now).1.isSome = true := Scene.status_eq_defined_iff.mp hdefined
  have hshow := (v.showCaret_eq (v.fetch now).1).mpr ⟨hfocused, henabled, hsource⟩
  refine Iff.trans ?_ (Grid.nibbleVisible_iff hg.layout.row_pos)
  rw [Option.isSome_iff_exists]
  constructor
  · rintro ⟨rect, hrect⟩
    obtain ⟨-, -, hvisible, -⟩ :=
      (Scene.caretRect?_eq_some_iff (s := v.scene (v.fetch now).1) hg).mp hrect
    exact hvisible
  · intro hvisible
    exact ⟨_, (Scene.caretRect?_eq_some_iff (s := v.scene (v.fetch now).1) hg).mpr
      ⟨hdata, hshow, hvisible, rfl⟩⟩

variable [ByteSource τ] {v : View (AnySource (Paged Memory ⊕ τ))} {m : Memory}

theorem typeChar_at_caret (hv : v.Reachable Outside) (hs : v.source = some (.inl m))
    (hsize : m.bytes.size < 2 ^ 63) (hok : (v.typeChar ch).1 = .ok edit) :
    edit.offset = v.grid.flip (v.caret / 2) ∧
      ∃ new : Bytes, (v.typeChar ch).2.source = some (.inl { m with bytes := new }) ∧
        new.size = m.bytes.size ∧
        new[edit.offset]? = some edit.value ∧ ∀ i, i ≠ edit.offset → new[i]? = m.bytes[i]? := by
  obtain ⟨s', happly⟩ := typeChar_ok_iff.mp hok
  obtain ⟨-, hoffset, ⟨old, hold, -⟩, rfl⟩ := (applyChar_memory_iff hv hs rfl hsize).mp happly
  have hnew (i : Nat) := m.bytes.getElem?_overwrite edit.offset edit.value i
  refine ⟨hoffset, _, (typeChar_of_applied happly).1, Bytes.size_overwrite _ _ _, ?_,
    fun i hi => ?_⟩
  · rw [hnew, if_pos rfl, hold]
    rfl
  · rw [hnew, if_neg hi]

/-- The caret of a memory that can be edited stands on the cell of the byte that a character
overwrites. The caret of a view that has the keyboard is seen if its row is, in every frame that is
defined, and those of a memory are. -/
theorem caret_on_typed (hv : v.Reachable AnySource.Drifts) (now : Nat) :
    (∀ m, v.source = some (.inl m) → m.editable = true → m.bytes.size < 2 ^ 63 →
      v.caret < 2 * m.bytes.size →
      ∀ rect, (v.render now).1.caret = some rect →
        (∃ c ∈ (v.render now).1.cells, c.pane = v.activePane.typed ∧ c.position = v.caret / 2) ∧
        ∀ c ∈ (v.render now).1.cells, c.pane = v.activePane.typed → c.position = v.caret / 2 →
          rect.x = (if v.activePane = .text then c.x - 1
            else c.x + (v.caret % 2 : Nat) * v.metrics.charWidth - 1) ∧
          rect.y = c.bounds.y - 1 ∧
          ∀ ch, ((∃ edit, (v.typeChar ch).1 = .ok edit) ↔ v.activePane.Accepts ch) ∧
            ∀ edit, (v.typeChar ch).1 = .ok edit →
              ∃ new : Bytes, (v.typeChar ch).2.source = some (.inl { m with bytes := new }) ∧
                new.size = m.bytes.size ∧
                new[c.offset]? = some edit.value ∧ ∀ i, i ≠ c.offset → new[i]? = m.bytes[i]?) ∧
    (v.focused = true → v.enabled = true → v.source.isSome = true →
      (v.render now).1.status = .defined →
      ((v.render now).1.caret.isSome = true ↔
        v.grid.firstRow ≤ v.caret / (2 * v.layout.bytesPerRow) ∧
          v.caret / (2 * v.layout.bytesPerRow) < v.grid.firstRow + v.grid.visibleRows)) ∧
    ∀ m, v.source = some (.inl m) → (v.render now).1.status = .defined ∧ (v.render now).2 = v := by
  have hg := hv.valid
  refine ⟨?_, caret_isSome_iff hg, ?_⟩
  · intro m hs heditable hsize hcaret rect hrect
    have hlength : v.grid.length = m.bytes.size := by
      change v.length = _
      rw [View.length, hs]
      rfl
    have hsettled : v.poller.Settled := hv.atHand _ hs rfl
    obtain ⟨-, hshow, -⟩ :=
      (Scene.caretRect?_eq_some_iff (s := v.scene (v.fetch now).1) hg).mp hrect
    obtain ⟨-, henabled, -⟩ := (v.showCaret_eq _).mp hshow
    obtain ⟨hcell, hplace⟩ :=
      Scene.caret_on_cell (s := v.scene (v.fetch now).1) hg (hlength ▸ hcaret) hrect
    refine ⟨hcell, fun c hc hpane hposition => ?_⟩
    obtain ⟨hx, hy, hoffset⟩ := hplace c hc hpane hposition
    refine ⟨?_, hy, fun ch => ⟨?_, fun edit hok => ?_⟩⟩
    · exact hx.trans (hg.add_caretShift v.caret v.activePane c.x)
    · rw [typeChar_isOk_iff hv hs rfl hsize]
      exact ⟨fun h => h.2.2.2.2.1, fun h =>
        ⟨henabled, hsettled.1, heditable, hcaret, h, fun _ => trivial⟩⟩
    · obtain ⟨hedit, hnew⟩ := typeChar_at_caret hv hs hsize hok
      rw [hoffset.trans hedit.symm]
      exact hnew
  · intro m hs
    rw [render_eq hv hs rfl (AnySource.addressable_inl m)]
    exact ⟨rfl, rfl⟩

/-- The low digit of a byte in a reversed column, in a window that has scrolled to its row. -/
theorem caret_on_typed_reversed :
    let m : Memory := { bytes := Array.replicate 14 0x41, editable := true }
    let installed : View (AnySource (Paged Memory ⊕ Scripted)) :=
      (Call.install (.inl m)).apply ((Call.setLayout { bytesPerRow := 5, flipBytes := true }).apply
        ((Call.resize 640 28).apply {}))
    let v := (Call.setCaret 17).apply installed
    v.viewport.firstRow = 1 ∧
      ∃ rect, (v.render 0).1.caret = some rect ∧
        ∃ c ∈ (v.render 0).1.cells, c.pane = .hex ∧ c.position = 8 ∧ c.offset = 7 ∧
          rect.x = c.x + 7 ∧ rect.y = c.bounds.y - 1 ∧
          ∃ edit new, (v.typeChar 'e').1 = .ok edit ∧
            (v.typeChar 'e').2.source = some (.inl { m with bytes := new }) ∧
            new[7]? = some edit.value ∧ ∀ i, i ≠ 7 → new[i]? = m.bytes[i]? := by
  intro m installed v
  have hv : v.Reachable AnySource.Drifts := (((Reachable.new.call _).call _).call _).call _
  have hcaret : v.caret = 17 := by decide
  have hpane : v.activePane = .hex := rfl
  have hoffset : ∀ c ∈ (v.render 0).1.cells, c.position = 8 → c.offset = 7 := by decide +kernel
  obtain ⟨hon, hseen, hdefined⟩ := caret_on_typed hv 0
  obtain ⟨rect, hrect⟩ :=
    Option.isSome_iff_exists.mp ((hseen rfl rfl rfl (hdefined m rfl).1).mpr (by decide))
  obtain ⟨⟨c, hc, htyped, hposition⟩, hcells⟩ := hon m rfl rfl (by decide) (by decide) rect hrect
  obtain ⟨hx, hy, hedit⟩ := hcells c hc htyped hposition
  rw [hcaret] at hposition hx
  obtain ⟨haccepts, hchanged⟩ := hedit 'e'
  obtain ⟨edit, hok⟩ := haccepts.mpr rfl
  obtain ⟨new, hsource, -, hnew, hrest⟩ := hchanged edit hok
  have hc7 := hoffset c hc hposition
  rw [hc7] at hnew hrest
  exact ⟨by decide, rect, hrect, c, hc, htyped, hposition, hc7,
    hx.trans (Int.add_sub_assoc _ _ _), hy, edit, new, hok, hsource, hnew, hrest⟩

end View

end HexEditor
