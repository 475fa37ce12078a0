import HexEditor.Proofs.Selection.Run
import HexEditor.Proofs.Source.Memory
import HexEditor.Source

/-!
# The bytes of a selection

A byte is selected if one of its digits is. That is how cells are drawn, and the range that is
copied has the same bytes, although the ends of a selection are rounded in one place and doubled in
the other. `run_selects` says so, and that the range lies within the data, so that no source refuses
it for its place.
-/

namespace HexEditor

-- ---------------------------------------------------------------------------
-- Ranges of the data
-- ---------------------------------------------------------------------------

/-- A range of the data is not refused as one outside of it. -/
def ByteSource.Serves (σ : Type) [ByteSource σ] : Prop :=
  ∀ (s : σ) (r : ByteRange), r.Within (ByteSource.length s) →
    ∀ offset length, ByteSource.read s r ≠ .error (.outOfRange offset length)

theorem Memory.serves : ByteSource.Serves Memory := by
  intro m r hr offset length
  have hread : ByteSource.read m r = .ok _ := Memory.read_of_within hr
  rw [hread]
  exact nofun

theorem Mapped.serves : ByteSource.Serves Mapped := by
  intro m r hr offset length
  have hcheck : r.check m.bytes.size = .ok () := if_pos hr
  change (do r.check m.bytes.size; return m.slice r : Except Error Bytes) ≠ _
  rw [hcheck]
  exact nofun

theorem Scripted.serves : ByteSource.Serves Scripted := by
  intro s r _ offset length
  change (if s.failReads then _ else _) ≠ _
  split
  · exact nofun
  · exact nofun

theorem Paged.serves [ByteSource σ] (h : ByteSource.Serves σ) : ByteSource.Serves (Paged σ) := by
  intro s r hr offset length
  change s.read r ≠ _
  unfold read
  split
  · exact h s.inner r hr offset length
  · exact nofun

theorem Source.serves : ByteSource.Serves Source := by
  intro source r hr
  cases source with
  | memory m => exact Memory.serves m r hr
  | mapped m => exact Mapped.serves m r hr
  | paged p => exact Paged.serves Memory.serves p r hr
  | scripted s => exact Scripted.serves s r hr
  | pagedScript p => exact Paged.serves Scripted.serves p r hr

-- ---------------------------------------------------------------------------
-- Selected bytes
-- ---------------------------------------------------------------------------

namespace Selection

variable {s : Selection}

theorem Exact.isEmpty_iff (h : s.Exact) : s.IsEmpty ↔ s.span.1 = s.span.2 := by
  have hcaret := h.caret_eq
  unfold IsEmpty span
  omega

theorem Exact.span_le (h : s.Exact) : s.span.1 ≤ s.span.2 ∧ s.span.2 ≤ s.limit := by
  have hstart := h.start_le
  have hcaret := h.caret_le
  unfold span
  omega

theorem Exact.selects_iff_digit (h : s.Exact) (p : Nat) :
    s.Selects p ↔ ∃ n ∈ [2 * p, 2 * p + 1], s.span.1 ≤ n ∧ n < s.span.2 := by
  have hle := h.span_le.1
  simp only [Selects, h.isEmpty_iff, List.mem_cons, List.not_mem_nil, or_false, exists_eq_or_imp,
    exists_eq_left]
  omega

theorem bytes?_eq_some_iff :
    s.bytes? = some r ↔ ¬ s.IsEmpty ∧ r = ⟨s.firstByte, s.lastByte - s.firstByte⟩ := by
  unfold bytes?
  split
  next hempty => simp [hempty]
  next hempty => simp [hempty, eq_comm]

theorem Exact.range_of_bytes? (h : s.Exact) (hr : s.bytes? = some r) :
    r.offset = s.span.1 / 2 ∧ r.offset + r.length = (s.span.2 + 1) / 2 ∧ 0 < r.length := by
  obtain ⟨hne, rfl⟩ := bytes?_eq_some_iff.mp hr
  have hle := h.span_le.1
  rw [h.isEmpty_iff] at hne
  refine ⟨rfl, ?_⟩
  simp only [firstByte, lastByte, divUp]
  omega

theorem Tracked.selects_iff_contains (h : s.Tracked) (p : Nat) :
    s.Selects p ↔ ∃ r, s.bytes? = some r ∧ r.Contains p := by
  have hspan := h.toExact.span_le
  have hlimit := h.limit_lt
  constructor
  · rintro ⟨hne, hlow, hhigh⟩
    have hr := bytes?_eq_some_iff.mpr ⟨hne, rfl⟩
    obtain ⟨hoffset, hstop, -⟩ := h.toExact.range_of_bytes? hr
    refine ⟨_, hr, ?_⟩
    unfold ByteRange.Contains ByteRange.stop Offset.add Offset.top
    omega
  · rintro ⟨r, hr, hcontains⟩
    obtain ⟨hoffset, hstop, -⟩ := h.toExact.range_of_bytes? hr
    unfold ByteRange.Contains ByteRange.stop Offset.add Offset.top at hcontains
    exact ⟨(bytes?_eq_some_iff.mp hr).1, by omega, by omega⟩

/-- What is drawn as selected, what is copied and where a digit is selected are the same bytes, and
all of them are bytes of the data. -/
theorem run_selects {limit : Nat} {ops : List Op} (hlimit : limit < 2 ^ 63)
    (hops : ∀ op ∈ ops, op.Signed) :
    let s := (empty limit).run ops
    (∀ p, (s.Selects p ↔ ∃ r, s.bytes? = some r ∧ r.Contains p) ∧
      (s.Selects p ↔ ∃ n ∈ [2 * p, 2 * p + 1], s.span.1 ≤ n ∧ n < s.span.2)) ∧
    ∀ length r, s.limit = 2 * length → s.bytes? = some r →
      ¬ r.IsEmpty ∧ r.offset + r.length ≤ length ∧
        ∀ source : Source, ByteSource.length source = length →
          ∀ offset length', ByteSource.read source r ≠ .error (.outOfRange offset length') := by
  intro s
  have h : s.Tracked := ((tracked_empty hlimit).run hops).1
  refine ⟨fun p => ⟨h.selects_iff_contains p, h.toExact.selects_iff_digit p⟩,
    fun length r hlength hr => ?_⟩
  obtain ⟨-, hstop, hpos⟩ := h.toExact.range_of_bytes? hr
  have hspan := h.toExact.span_le.2
  have hwithin : r.offset + r.length ≤ length := by omega
  refine ⟨Nat.ne_of_gt hpos, hwithin, ?_⟩
  rintro source rfl
  refine Source.serves source r ?_
  unfold ByteRange.Within ByteRange.stop Offset.add
  omega

/-- Backwards from the low digit of the last byte to the low digit of the third one. -/
theorem run_selects_backwards :
    let ops := [Op.setCaret 9, .moveBy (-4) true]
    let s := (empty 10).run ops
    (∀ op ∈ ops, op.Signed) ∧ s.span = (5, 9) ∧ s.bytes? = some ⟨2, 3⟩ ∧ s.Selects 4 ∧
    (∃ n ∈ [8, 9], s.span.1 ≤ n ∧ n < s.span.2) ∧
      ∀ offset length, ByteSource.read (Source.paged { inner := { bytes := #[1, 2, 3, 4, 5] } })
        ⟨2, 3⟩ ≠ .error (.outOfRange offset length) := by
  intro ops s
  have hops : ∀ op ∈ ops, op.Signed := by decide
  have hbytes : s.bytes? = some ⟨2, 3⟩ := by decide
  obtain ⟨hselects, hread⟩ := run_selects (show 10 < 2 ^ 63 by decide) hops
  have hselected : s.Selects 4 := (hselects 4).1.mpr ⟨_, hbytes, by decide⟩
  exact ⟨hops, by decide, hbytes, hselected, (hselects 4).2.mp hselected,
    (hread 5 _ (by decide) hbytes).2.2 _ rfl⟩

end Selection

end HexEditor
