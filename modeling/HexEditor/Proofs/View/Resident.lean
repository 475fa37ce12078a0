import HexEditor.Proofs.Frame.Content
import HexEditor.Proofs.Poller
import HexEditor.Proofs.View.Run
import HexEditor.Source
import Mathlib.Algebra.Group.Int.Defs
import Mathlib.Algebra.Group.Nat.Defs

/-!
# Views of bytes that are at hand

Memories and mapped files have all their bytes at once. A view never waits for them:
`render_resident` says that every frame is defined and shows, for each position on screen, the byte
that the source has at that moment, also if the content has been replaced since the last frame or if
other sources were installed before.
-/

namespace HexEditor

-- ---------------------------------------------------------------------------
-- Sources
-- ---------------------------------------------------------------------------

theorem ByteRange.within_of_le {r : ByteRange} (h : r.offset + r.length ≤ total) :
    r.Within total := by
  unfold Within stop Offset.add
  omega

instance [ByteSource σ] [ByteSource τ] : ByteSource (σ ⊕ τ) where
  request
    | .inl s, r => ((Probe.request s r).1, .inl (Probe.request s r).2)
    | .inr t, r => ((Probe.request t r).1, .inr (Probe.request t r).2)
  keepsTrying
    | .inl s => Probe.keepsTrying s
    | .inr t => Probe.keepsTrying t
  length
    | .inl s => ByteSource.length s
    | .inr t => ByteSource.length t
  read
    | .inl s => ByteSource.read s
    | .inr t => ByteSource.read t
  write
    | .inl s, offset, new => .inl <$> ByteSource.write s offset new
    | .inr t, offset, new => .inr <$> ByteSource.write t offset new
  editable
    | .inl s => ByteSource.editable s
    | .inr t => ByteSource.editable t
  takeChange
    | .inl s => ((ByteSource.takeChange s).1, .inl (ByteSource.takeChange s).2)
    | .inr t => ((ByteSource.takeChange t).1, .inr (ByteSource.takeChange t).2)

/-- A memory, a mapped file, or a source of any other type. -/
abbrev AnySource (τ : Type) := Memory ⊕ Mapped ⊕ τ

namespace AnySource

def bytes? : AnySource τ → Option Bytes
  | .inl m => some m.bytes
  | .inr (.inl m) => some m.bytes
  | .inr (.inr _) => none

/-- Every offset of a mapped file is a 64-bit word. -/
def Addressable (s : AnySource τ) : Prop :=
  ∀ m, s = .inr (.inl m) → m.bytes.size < 2 ^ 64

theorem addressable_inl (m : Memory) : Addressable (τ := τ) (.inl m) :=
  nofun

/-- Changes that a source may undergo on its own: memories and mapped files may get any other
content, other sources any other state. -/
def Drifts (s s' : AnySource τ) : Prop :=
  s'.bytes?.isSome = s.bytes?.isSome

variable [ByteSource τ] {s : AnySource τ}

omit [ByteSource τ] in
theorem Drifts.trans {s s' s'' : AnySource τ} (h : s.Drifts s') (h' : s'.Drifts s'') :
    s.Drifts s'' :=
  Eq.trans h' h

theorem drifts_request (s : AnySource τ) (r : ByteRange) : s.Drifts (Probe.request s r).2 := by
  rcases s with m | m | t <;> rfl

theorem drifts_takeChange (s : AnySource τ) : s.Drifts (ByteSource.takeChange s).2 := by
  rcases s with m | m | t <;> rfl

theorem drifts_write (h : ByteSource.write s offset new = .ok s') : s.Drifts s' := by
  rcases s with m | m | t
  · obtain ⟨m', -, rfl⟩ := exists_of_map_ok h
    rfl
  · cases h
  · obtain ⟨s', hs', rfl⟩ := exists_of_map_ok h
    obtain ⟨t', -, rfl⟩ := exists_of_map_ok hs'
    rfl

section
variable (h : s.bytes? = some bytes)
include h

theorem length_eq : ByteSource.length s = bytes.size := by
  rcases s with m | m | t <;> cases h <;> rfl

theorem request_eq (r : ByteRange) : Probe.request s r = (decide (r.Within bytes.size), s) := by
  rcases s with m | m | t <;> cases h <;> rfl

theorem read_eq (hr : r.offset + r.length ≤ bytes.size) :
    ∃ data, ByteSource.read s r = .ok data ∧
      (s.Addressable → data = bytes.extract r.offset (r.offset + r.length)) := by
  have hcheck : r.check bytes.size = .ok () := if_pos (ByteRange.within_of_le hr)
  rcases s with m | m | t
  · cases h
    refine ⟨m.bytes.extract r.offset (r.offset + r.length), ?_, fun _ => rfl⟩
    change (do r.check m.bytes.size; return _ : Except Error Bytes) = _
    rw [hcheck]
    rfl
  · cases h
    refine ⟨m.slice r, ?_, fun hsize => ?_⟩
    · change (do r.check m.bytes.size; return _ : Except Error Bytes) = _
      rw [hcheck]
      rfl
    · have hstop : r.stop = r.offset + r.length := by
        have := hsize m rfl
        unfold ByteRange.stop Offset.add Offset.top
        omega
      rw [Mapped.slice, hstop]
  · cases h

end

end AnySource

-- ---------------------------------------------------------------------------
-- Runs
-- ---------------------------------------------------------------------------

namespace View

variable [ByteSource τ]

/-- Nothing is awaited while a memory or a mapped file is installed. -/
def Core.AtHand (c : Core (AnySource τ)) : Prop :=
  ∀ s, c.source = some s → s.bytes?.isSome → c.poller.Settled

theorem fetch_atHand {p : Poller} {s : AnySource τ} {region : ByteRange} (hp : p.Settled)
    (h : s.bytes? = some bytes)
    (hr : region.IsEmpty ∨ region.offset + region.length ≤ ByteSource.length s) (now : Nat) :
    ∃ data, p.fetch s region now = (some data, p, s) ∧
      (s.Addressable → data = bytes.extract region.offset (region.offset + region.length)) := by
  by_cases hregion : region.IsEmpty
  · refine ⟨#[], hp.fetch_empty s hregion now, fun _ => ?_⟩
    rw [show region.length = 0 from hregion, Nat.add_zero,
      Array.extract_empty_of_stop_le_start (Nat.le_refl _)]
  · rw [AnySource.length_eq h] at hr
    have hle := hr.resolve_left hregion
    obtain ⟨data, hread, hdata⟩ := AnySource.read_eq h hle
    have hasked : Probe.request s region = (true, s) := by
      rw [AnySource.request_eq h, decide_eq_true (ByteRange.within_of_le hle)]
    exact ⟨data, hp.fetch_eq hregion hasked hread now, hdata⟩

theorem Core.Step.atHand {c c' : Core (AnySource τ)} (h : c.Step c') (hc : c.AtHand) :
    c'.AtHand := by
  -- A source that is at hand after the step was so before it: asking and writing leave a memory a
  -- memory.
  have hrequest {s : AnySource τ} (x r) (hx : s.Drifts x) : s.Drifts (Probe.request x r).2 :=
    hx.trans (AnySource.drifts_request x r)
  cases h with
  | keep | layout | metrics => exact hc
  | reset =>
    intro s hs hb
    exact Poller.Settled.reset c.poller
  | interval n =>
    intro s hs hb
    obtain ⟨hstatus, hpoll⟩ := hc s hs hb
    exact ⟨hstatus, hpoll⟩
  | @write s _ _ s' hs hw =>
    intro _ hs' hb
    cases hs'
    rw [AnySource.drifts_write hw] at hb
    exact hc s hs hb
  | @fetch s region hs hr now =>
    intro _ hs' hb
    cases hs'
    rw [Poller.fetch_source hrequest c.poller region now rfl] at hb
    have hsettled := hc s hs hb
    obtain ⟨bytes, hbytes⟩ := Option.isSome_iff_exists.mp hb
    obtain ⟨data, hfetch, -⟩ := fetch_atHand hsettled hbytes hr now
    rw [hfetch]
    exact hsettled
  | @tick s hs now =>
    intro _ hs' hb
    cases hs'
    rw [Poller.tick_probe hrequest c.poller now (AnySource.drifts_takeChange s)] at hb
    have hsettled := hc s hs hb
    rw [hsettled.tick_eq]
    exact hsettled
  | @pollNow s hs now =>
    intro _ hs' hb
    cases hs'
    rw [Poller.pollNow_probe hrequest c.poller now rfl] at hb
    have hsettled := hc s hs hb
    rw [hsettled.pollNow_eq]
    exact hsettled

theorem Reachable.atHand {v : View (AnySource τ)} (h : v.Reachable AnySource.Drifts) :
    v.core.AtHand := by
  refine h.core_induction ?_ (fun _ _ hc hstep => hstep.atHand hc) ?_
  · intro interval layout hl s hs
    cases hs
  · intro c s s' hc hs hdrift _ hs' hb
    cases hs'
    rw [hdrift] at hb
    exact hc s hs hb

-- ---------------------------------------------------------------------------
-- Frames
-- ---------------------------------------------------------------------------

theorem render_eq {v : View (AnySource τ)} (hv : v.Reachable AnySource.Drifts)
    (hs : v.source = some s) (hb : s.bytes? = some bytes) (hsize : s.Addressable) (now : Nat) :
    v.render now =
      ((v.scene
        (some (bytes.extract v.grid.firstByte (v.grid.firstByte + v.grid.shownBytes)))).compose,
        v) := by
  have hsettled : v.poller.Settled := hv.atHand s hs (by rw [hb]; rfl)
  obtain ⟨data, hfetch, hdata⟩ := fetch_atHand hsettled hb (v.visibleRange_le hs) now
  have hkeep : { v with source := some s } = v := by rw [← hs]
  rw [render, fetch, hs]
  simp only [hfetch, if_true, hdata hsize, hkeep]
  rfl

/-- A view of a memory or a mapped file draws a defined frame at any time: for each position on
screen a hex cell and a text cell, with the bytes that the source has now. -/
theorem render_resident {v : View (AnySource τ)} (hv : v.Reachable AnySource.Drifts)
    (hs : v.source = some s) (hb : s.bytes? = some bytes) (hsize : s.Addressable) (now : Nat) :
    (v.render now).1.status = .defined ∧ (v.render now).2.poller.poll = none ∧
      (v.render now).1.cells.map (fun c => (c.pane, c.position, c.offset)) =
        (List.range' v.grid.firstByte v.grid.shownBytes).flatMap
          (fun p => [(.hex, p, v.grid.flip p), (.text, p, v.grid.flip p)]) ∧
      (((v.render now).1.cells.filter (·.pane = .hex)).map (·.offset)).Perm
        (List.range' v.grid.firstByte v.grid.shownBytes) ∧
      ∀ c ∈ (v.render now).1.cells, ∃ b, bytes[c.offset]? = some b ∧ c.pane.Writes b c.text := by
  have hlength : v.length = bytes.size := by
    rw [View.length, hs]
    exact AnySource.length_eq hb
  rw [render_eq hv hs hb hsize]
  refine ⟨rfl, (hv.atHand s hs (by rw [hb]; rfl)).2, Scene.cells_places,
    Scene.hex_offsets_perm hv.valid.layout, ?_⟩
  intro c hc
  exact Scene.cell_writes hv.valid.layout hlength rfl hc

/-- A view that was waiting for another source, and whose memory has been replaced after the last
call. -/
theorem render_replaced :
    let waiting : View (AnySource Scripted) :=
      (Call.render 0).apply
      ((Call.install (.inr (.inr { length := 8, script := { last := false } }))).apply {})
    let flipped :=
      (Call.setFlipBytes true).apply ((Call.install (.inl { bytes := #[1] })).apply waiting)
    let v : View (AnySource Scripted) :=
      { flipped with source := some (.inl { bytes := #[0x48, 0x69, 0x0A] }) }
    waiting.poller.status = .undefined ∧ v.Reachable AnySource.Drifts ∧
      (v.render 5).1.status = .defined ∧
      (((v.render 5).1.cells.filter (·.pane = .hex)).map (·.offset)).Perm [0, 1, 2] := by
  intro waiting flipped v
  have hv : v.Reachable AnySource.Drifts :=
    (((Reachable.new.call _).call _).call _).call _ |>.outside rfl rfl
  have hpositions : List.range' v.grid.firstByte v.grid.shownBytes = [0, 1, 2] := by decide
  have h := render_resident hv rfl rfl nofun 5
  exact ⟨rfl, hv, h.1, hpositions ▸ h.2.2.2.1⟩

end View

end HexEditor
