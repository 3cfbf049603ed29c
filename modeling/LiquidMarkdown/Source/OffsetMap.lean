import LiquidMarkdown.Source.Bisect

/-!
# Offset maps

A piece of text taken from a source need not be contiguous there: Markdown drops the indentation
of continuation lines.  An offset map says where each character of the piece stands in the source,
by segments that each start at a local index and run on from a source offset.  This file defines:

* `OffsetMap` — the segments in order;
* `OffsetMap.resolve?` — the source offset of a local index;
* `OffsetMap.span?` — the source range of a range of the text, whose end stays on its own line;
* `OffsetMap.shift?` — the map of the text that begins at a later index.

A map without segments resolves nothing.
-/

namespace LiquidMarkdown

/-- Segments `(local index, source offset)`, in ascending order of the local index. -/
structure OffsetMap where
  segments : List (Int × Int)
  deriving DecidableEq, Repr

namespace OffsetMap

/-- The map of a text that stands in the source as it is. -/
def contiguous (offset : Int) : OffsetMap :=
  ⟨[(0, offset)]⟩

/-- Does the text stand in the source in one piece? -/
def isContiguous (m : OffsetMap) : Bool :=
  m.segments.length == 1

/-- The segment that a local index belongs to: the last one that does not start behind it, or the
first one. -/
def segmentAt? (m : OffsetMap) (index : Int) : Option (Int × Int) :=
  let beyond i := index < (m.segments.getD i (0, 0)).1
  m.segments[bisect beyond 0 m.segments.length - 1]?

/-- The source offset of a local index. -/
def resolve? (m : OffsetMap) (index : Int) : Option Int :=
  (m.segmentAt? index).map fun s => s.2 + index - s.1

/-- The source range of the text from `start` up to `stop`. -/
def span? (m : OffsetMap) (start stop : Int) : Option (Int × Int) := do
  let first ← m.resolve? start
  if stop ≤ start then return (first, first)
  let last ← m.resolve? (stop - 1)
  return (first, last + 1)

/-- The map of the text that begins at `start`. -/
def shift? (m : OffsetMap) (start : Int) : Option OffsetMap :=
  (m.resolve? start).map fun first =>
    ⟨(0, first) :: (m.segments.filter (start < ·.1)).map fun s => (s.1 - start, s.2)⟩

end OffsetMap
end LiquidMarkdown
