import HexEditor.Color
import HexEditor.Error
import HexEditor.Offset

/-!
# Highlights

Byte ranges with colors of their own, in layers. Ranges of one layer are kept in the order of their
starts and do not overlap: a new range first clears its span, so the last one wins. Of several
layers the lowest-numbered one that colors a byte wins.
-/

namespace HexEditor

/-- A colored byte range; a missing color leaves the default one. -/
structure Highlight where
  start : Nat
  size : Nat
  foreground : Option Color
  background : Option Color
deriving DecidableEq, Repr

namespace Highlight

def range (h : Highlight) : ByteRange :=
  ⟨h.start, h.size⟩

def stop (h : Highlight) : Nat :=
  h.range.stop

/-- What remains of a highlight outside a span: the part before it and the part after it. -/
def outside (h : Highlight) (span : ByteRange) : List Highlight :=
  if h.start < span.stop ∧ span.offset < h.stop then
    (if h.start < span.offset then [{ h with size := span.offset - h.start }] else []) ++
      (if span.stop < h.stop then [{ h with start := span.stop, size := h.stop - span.stop }]
       else [])
  else [h]

end Highlight

/-- The highlights of one layer, by ascending start. -/
structure Layer where
  highlights : List Highlight := []
deriving DecidableEq, Repr, Inhabited

namespace Layer

/-- The highlight of an offset. Only the last one that starts at or before the offset can contain
it. -/
def find? (layer : Layer) (offset : Nat) : Option Highlight :=
  ((layer.highlights.takeWhile (·.start ≤ offset)).getLast?).filter (·.range.Contains offset)

/-- Clear a span, trimming or splitting the highlights at its edges. -/
def erase (layer : Layer) (span : ByteRange) : Layer :=
  if span.IsEmpty then layer else ⟨layer.highlights.flatMap (·.outside span)⟩

def insert (layer : Layer) (h : Highlight) : Layer :=
  if h.size = 0 then layer
  else
    let kept := (layer.erase h.range).highlights
    ⟨kept.takeWhile (·.start < h.start) ++ h :: kept.dropWhile (·.start ≤ h.start)⟩

end Layer

structure Layers where
  layers : List Layer := List.replicate 10 ⟨[]⟩
deriving DecidableEq, Repr, Inhabited

namespace Layers

def ofCount (count : Nat) : Layers :=
  ⟨List.replicate count ⟨[]⟩⟩

def count (ls : Layers) : Nat :=
  ls.layers.length

def IsEmpty (ls : Layers) : Prop :=
  ∀ layer ∈ ls.layers, layer.highlights = []

instance (ls : Layers) : Decidable ls.IsEmpty :=
  inferInstanceAs (Decidable (∀ layer ∈ ls.layers, layer.highlights = []))

/-- Add an empty layer below the others; its index is the old count. -/
def push (ls : Layers) : Layers :=
  ⟨ls.layers ++ [⟨[]⟩]⟩

def modify (ls : Layers) (layer : Nat) (f : Layer → Layer) : Except Error Layers :=
  if layer < ls.count then .ok ⟨ls.layers.modify layer f⟩
  else .error (.invalid (.noSuchLayer layer ls.count))

def add (ls : Layers) (layer : Nat) (h : Highlight) : Except Error Layers :=
  ls.modify layer (·.insert h)

def remove (ls : Layers) (layer : Nat) (span : ByteRange) : Except Error Layers :=
  if span.IsEmpty then .error (.invalid .emptySpan)
  else ls.modify layer (·.erase span)

def clear (ls : Layers) : Option Nat → Except Error Layers
  | some layer => ls.modify layer fun _ => ⟨[]⟩
  | none => .ok ⟨ls.layers.map fun _ => ⟨[]⟩⟩

/-- The highlight of an offset, from the layer of highest priority that has one. -/
def find? (ls : Layers) (offset : Nat) : Option Highlight :=
  ls.layers.findSome? (·.find? offset)

end Layers

end HexEditor
