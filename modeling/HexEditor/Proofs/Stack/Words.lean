import HexEditor.Proofs.Address
import HexEditor.Proofs.Frame.Content
import HexEditor.Proofs.Stack.Run
import HexEditor.Session

/-!
# The stack panel of a file

The panel of a session shows a buffer as machine words, the lowest byte of each first.
`rebuildStack_run`: whatever is done to the panel, its words are all at hand. Every row on screen
that has a word shows it, and of those rows only that of the stack pointer is marked.
-/

namespace HexEditor

theorem AddressWidth.wordSize_pos (width : AddressWidth) : 0 < width.wordSize := by
  cases width <;> decide

-- ---------------------------------------------------------------------------
-- Words as text
-- ---------------------------------------------------------------------------

def littleEndian : List UInt8 → Nat
  | [] => 0
  | b :: bs => b.toNat + 256 * littleEndian bs

namespace Hex

/-- Bytes written from the last to the first. -/
def word (bs : List UInt8) : String :=
  String.join (bs.reverse.map byte)

theorem toList_word_cons (b : UInt8) (bs : List UInt8) :
    (word (b :: bs)).toList = (word bs).toList ++ [digit (b.toNat / 16)] ++
    [digit (b.toNat % 16)] := by
  simp [word, String.join, byte]

theorem length_word (bs : List UInt8) : (word bs).toList.length = 2 * bs.length := by
  induction bs with
  | nil => rfl
  | cons b bs ih => simp [toList_word_cons, ih, Nat.mul_add]

theorem mem_upperDigits_of_word (bs : List UInt8) : ∀ c ∈ (word bs).toList, c ∈ upperDigits := by
  have hdigit {d : Nat} (hd : d < 16) : digit d ∈ upperDigits :=
    List.mem_of_getElem? (upperDigits_digit hd)
  induction bs with
  | nil => exact fun c hc => absurd hc List.not_mem_nil
  | cons b bs ih =>
    have hb := b.toNat_lt
    intro c hc
    rw [toList_word_cons, List.mem_append, List.mem_append, List.mem_singleton,
      List.mem_singleton] at hc
    rcases hc with (hc | rfl) | rfl
    · exact ih c hc
    · exact hdigit (by omega)
    · exact hdigit (by omega)

theorem digitsValue?_word (bs : List UInt8) :
    Address.digitsValue? 16 (word bs).toList = some (littleEndian bs) := by
  induction bs with
  | nil => rfl
  | cons b bs ih =>
    have hb := b.toNat_lt
    have hhigh := Address.digitsValue?_concat _ (show b.toNat / 16 < 16 by omega) ih
    rw [toList_word_cons, Address.digitsValue?_concat _ (show b.toNat % 16 < 16 by omega) hhigh,
      littleEndian]
    exact congrArg some (by omega)

end Hex

namespace StackTable

-- ---------------------------------------------------------------------------
-- Runs
-- ---------------------------------------------------------------------------

/-- A panel that shows the words of a buffer, and is scrolled to one of them if there is any. -/
structure Intact (s : WordStack) (t : StackTable WordStack) : Prop where
  model : t.model = s
  size : t.elementSize = s.wordSize
  settled : t.poller.Settled
  first : t.firstRow ≤ s.count - 1

variable {s : WordStack} {t : StackTable WordStack}

theorem Intact.wordSize_pos (h : t.Intact s) : 0 < s.wordSize :=
  h.size ▸ t.addressWidth.wordSize_pos

theorem Intact.shownRows_eq (h : t.Intact s) :
    t.shownRows = min t.visibleRows (s.count - t.firstRow) :=
  h.model ▸ rfl

theorem Intact.shownRows_pos (h : t.Intact s) (hcount : 0 < s.count) (hrows : 0 < t.visibleRows) :
    0 < t.shownRows := by
  have hfirst := h.first
  rw [h.shownRows_eq]
  omega

theorem Intact.tick_eq (h : t.Intact s) (now : Nat) : t.tick now = (false, t) := by
  rw [tick, h.settled.tick_eq]

theorem Intact.word_le (h : t.Intact s) (hi : i < t.shownRows) :
    (t.firstRow + i + 1) * s.wordSize ≤ s.bytes.size := by
  have hcount : t.firstRow + i + 1 ≤ s.count := by
    rw [h.shownRows_eq] at hi
    omega
  exact Nat.le_trans (Nat.mul_le_mul_right _ hcount) (Nat.div_mul_le_self _ _)

section
variable (hsize : s.bytes.size < 2 ^ 64)
include hsize

theorem Intact.address_eq (h : t.Intact s) (hi : i < t.shownRows) (defined : Bool) :
    (t.row 0 defined i).address = (t.firstRow + i) * s.wordSize := by
  have hword := h.word_le hi
  rw [Nat.succ_mul] at hword
  rw [address_row, h.size, Offset.wrapAdd, Nat.zero_add, Nat.mod_eq_of_lt (by omega)]

theorem Intact.there (h : t.Intact s) :
    (t.region 0).IsEmpty ∨ (Probe.request t.model (t.region 0)).1 = true := by
  obtain hnone | hsome := Nat.eq_zero_or_pos t.shownRows
  · left
    change t.shownRows * t.elementSize = 0
    rw [hnone, Nat.zero_mul]
  · right
    have hlast := h.word_le (Nat.sub_one_lt_of_lt hsome)
    have hend : t.firstRow * s.wordSize + t.shownRows * s.wordSize ≤ s.bytes.size := by
      rwa [Nat.add_assoc, Nat.sub_add_cancel hsome, Nat.add_mul] at hlast
    have hoffset : (t.region 0).offset = t.firstRow * s.wordSize := by
      change Offset.wrapAdd 0 (t.firstRow * t.elementSize) = _
      rw [h.size, Offset.wrapAdd, Nat.zero_add, Nat.mod_eq_of_lt (by omega)]
    have hlength : (t.region 0).length = t.shownRows * s.wordSize :=
      congrArg (t.shownRows * ·) h.size
    rw [h.model]
    refine decide_eq_true (Nat.le_trans (Nat.min_le_left _ _) ?_)
    rwa [hoffset, hlength]

theorem Intact.render_eq (h : t.Intact s) (now : Nat) :
    t.render now =
      (⟨.defined, t.addressColumn - t.scrollX, (List.range t.shownRows).map (t.row 0 true)⟩,
        t) := by
  by_cases hempty : s.bytes.isEmpty
  · have hstart : StackModel.start? t.model = none := by
      rw [h.model]
      exact if_pos hempty
    have hrows : t.shownRows = 0 := by
      have hbytes : s.bytes.size = 0 := Array.isEmpty_iff_size_eq_zero.mp hempty
      rw [h.shownRows_eq, WordStack.count, hbytes, Nat.zero_div, Nat.zero_sub, Nat.min_zero]
    rw [render, hstart, hrows]
    simp only [h.settled.1, List.range_zero, List.map_nil]
  · have hstart : StackModel.start? t.model = some 0 := by
      rw [h.model]
      exact if_neg hempty
    obtain ⟨m, hm, hrender⟩ := render_there h.settled hstart (h.there hsize) now
    -- A buffer is not changed by being asked.
    obtain rfl : m = t.model := hm.elim id id
    exact hrender

theorem Intact.apply (h : t.Intact s) (op : Op) : (t.apply op).Intact s := by
  cases op with
  | setMetrics metrics =>
    obtain hrefused | ⟨-, happly⟩ := apply_setMetrics t metrics
    · rw [hrefused]
      exact h
    · rw [happly]
      exact ⟨h.model, h.size, h.settled, h.first⟩
  | resize | setFirstColumn => exact ⟨h.model, h.size, h.settled, h.first⟩
  | setFirstRow row => exact ⟨h.model, h.size, h.settled, h.model ▸ Nat.min_le_right _ _⟩
  | tick now =>
    rw [StackTable.apply, h.tick_eq]
    exact h
  | render now =>
    rw [StackTable.apply, h.render_eq hsize]
    exact h
  | valueAt y =>
    simp only [StackTable.apply, StackTable.valueAt]
    repeat' split
    all_goals exact ⟨h.model, h.size, h.settled, h.first⟩

theorem Intact.run (h : t.Intact s) (ops : List Op) : (ops.foldl StackTable.apply t).Intact s := by
  induction ops generalizing t with
  | nil => exact h
  | cons op ops ih => exact ih (h.apply hsize op)

-- ---------------------------------------------------------------------------
-- Rows
-- ---------------------------------------------------------------------------

theorem Intact.address_add_le (h : t.Intact s) (hi : i < t.shownRows) (defined : Bool) :
    (t.row 0 defined i).address + s.wordSize ≤ s.bytes.size := by
  rw [h.address_eq hsize hi, ← Nat.succ_mul]
  exact h.word_le hi

theorem Intact.value_eq (h : t.Intact s) (hi : i < t.shownRows) :
    (t.row 0 true i).value =
      Hex.word (s.bytes.extract (t.row 0 true i).address
        ((t.row 0 true i).address + s.wordSize)).toList := by
  change t.model.element _ = _
  rw [h.model]
  exact if_pos (h.address_add_le hsize hi true)

theorem Intact.length_value (h : t.Intact s) (hi : i < t.shownRows) :
    (t.row 0 true i).value.toList.length = 2 * s.wordSize := by
  rw [h.value_eq hsize hi, Hex.length_word, Array.length_toList, Array.size_extract,
    Nat.min_eq_left (h.address_add_le hsize hi true), Nat.add_sub_cancel_left]

theorem Intact.mark_isSome_iff (h : t.Intact s) (hi : i < t.shownRows) :
    (t.row 0 true i).mark.isSome ↔ t.firstRow + i = s.count / 2 := by
  change (if StackModel.pointer? t.model = some (t.row 0 true i).address then some _
    else none).isSome ↔ _
  have hpointer : StackModel.pointer? t.model = some (s.count / 2 * s.wordSize) :=
    congrArg StackModel.pointer? h.model
  rw [hpointer, h.address_eq hsize hi true, Option.isSome_ite, Option.some_inj,
    Nat.mul_left_inj (Nat.ne_of_gt h.wordSize_pos), eq_comm]

end

end StackTable

theorem Session.intact_rebuildStack {s : Session} (h : s.rebuildStack.stack = some panel) :
    panel.Intact ⟨s.stackBytes, s.view.layout.addressWidth.wordSize⟩ := by
  cases h
  exact ⟨rfl, rfl, ⟨rfl, rfl⟩, Nat.zero_le _⟩

/-- Whatever is done to the panel of some bytes, it has all their words and waits for none. It shows
as many as fit on screen, each with its number, and marks the one in the middle. -/
theorem Session.rebuildStack_run (s : Session) (hsize : s.stackBytes.size < 2 ^ 64) :
    let w := s.view.layout.addressWidth.wordSize
    let entries := s.stackBytes.size / w
    ∃ panel, s.rebuildStack.stack = some panel ∧
      ∀ (ops : List StackTable.Op) (t : StackTable WordStack),
        ops.foldl StackTable.apply panel = t →
      t.poller.status = .defined ∧ t.poller.poll = none ∧
        ∀ now, t.tick now = (false, t) ∧ (t.render now).1.status = .defined ∧
          (t.render now).1.rows.length = min t.visibleRows (entries - t.firstRow) ∧
          (0 < entries → 0 < t.visibleRows → 0 < (t.render now).1.rows.length) ∧
          ∀ (i : Nat) (row : StackRow), (t.render now).1.rows[i]? = some row →
            row.address = (t.firstRow + i) * w ∧ row.address + w ≤ s.stackBytes.size ∧
            row.value.toList.length = 2 * w ∧ (∀ c ∈ row.value.toList, c ∈ upperDigits) ∧
            Address.digitsValue? 16 row.value.toList =
              some (littleEndian (s.stackBytes.extract row.address (row.address + w)).toList) ∧
            (row.mark.isSome ↔ t.firstRow + i = entries / 2) := by
  intro w entries
  refine ⟨_, rfl, ?_⟩
  rintro ops t rfl
  have h := (intact_rebuildStack rfl).run hsize ops
  refine ⟨h.settled.1, h.settled.2, fun now => ?_⟩
  rw [h.render_eq hsize now, List.length_map, List.length_range]
  refine ⟨h.tick_eq now, rfl, h.shownRows_eq, h.shownRows_pos, fun i row hrow => ?_⟩
  obtain ⟨hi, rfl⟩ := StackTable.getElem?_rows.mp hrow
  refine ⟨h.address_eq hsize hi true, h.address_add_le hsize hi true, h.length_value hsize hi,
    ?_, ?_,
    h.mark_isSome_iff hsize hi⟩
  · rw [h.value_eq hsize hi]
    exact Hex.mem_upperDigits_of_word _
  · rw [h.value_eq hsize hi]
    exact Hex.digitsValue?_word _

/-- Of two words and three more bytes, the panel can be scrolled to the second word and no
further. -/
theorem Session.rebuildStack_run_lastWord :
    ∃ panel row,
      ({ stackBytes := #[0, 1, 2, 3, 0xC4, 5, 6, 0xA7, 8, 9, 10] } : Session).rebuildStack.stack =
      some panel ∧
      (StackTable.render ([.setFirstRow 9, .render 3, .resize 100, .tick 5].foldl StackTable.apply
        panel) 8).1.rows = [row] ∧
      row.address = 4 ∧ Address.digitsValue? 16 row.value.toList = some 0xA70605C4 ∧
        row.mark.isSome := by
  obtain ⟨panel, hbuilt, hrun⟩ :=
    rebuildStack_run { stackBytes := #[0, 1, 2, 3, 0xC4, 5, 6, 0xA7, 8, 9, 10] } (by decide)
  obtain ⟨-, -, hframe⟩ := hrun [.setFirstRow 9, .render 3, .resize 100, .tick 5] _ rfl
  obtain ⟨-, -, hlength, -, hrows⟩ := hframe 8
  cases hbuilt
  obtain ⟨row, hrow⟩ := List.length_eq_one_iff.mp (hlength.trans (by decide))
  obtain ⟨haddress, -, -, -, hvalue, hmark⟩ := hrows 0 row (by rw [hrow]; rfl)
  have hfour : row.address = 4 := haddress.trans (by decide)
  rw [hfour] at hvalue
  exact ⟨_, row, rfl, hrow, hfour, hvalue.trans (by decide), hmark.mpr (by decide)⟩

end HexEditor
