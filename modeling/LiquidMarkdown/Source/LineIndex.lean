import LiquidMarkdown.Source.Bisect
import LiquidMarkdown.Source.Position
import LiquidMarkdown.Text.Basic

/-!
# Line index

Turns offsets in a source into lines and columns.  Only the line feed ends a line here.  This file
defines:

* `lineStarts` — the offsets at which the lines of a source start;
* `LineIndex` — a source together with its line starts;
* `LineIndex.point`, `LineIndex.position` — the place of an offset, the span between two;
* `LineIndex.lineOffset` — the offset of the start of a line.
-/

namespace LiquidMarkdown

/-- The offsets of the characters behind the line feeds, where `n` is the offset of the first
character. -/
def startsAfterBreaks (n : Nat) : Text → List Nat
  | [] => []
  | c :: cs =>
      if c = '\n' then (n + 1) :: startsAfterBreaks (n + 1) cs else startsAfterBreaks (n + 1) cs

/-- The offsets at which the lines of a source start. -/
def lineStarts (source : Text) : List Nat :=
  0 :: startsAfterBreaks 0 source

/-- A source with its line starts at hand. -/
structure LineIndex where
  source : Text
  starts : List Nat
  starts_eq : starts = lineStarts source

namespace LineIndex

/-- The index of a source. -/
def ofText (source : Text) : LineIndex :=
  ⟨source, lineStarts source, rfl⟩

/-- The number of characters in the source. -/
def size (ix : LineIndex) : Nat :=
  ix.source.length

/-- An offset, moved to the nearest end if it lies outside the source. -/
def clamp (ix : LineIndex) (offset : Int) : Nat :=
  min offset.toNat ix.size

/-- The number, counted from zero, of the line that holds an offset of the source. -/
def lineOf (ix : LineIndex) (offset : Nat) : Nat :=
  bisect (fun i => offset < ix.starts.getD i 0) 0 ix.starts.length - 1

/-- The place of an offset; offsets outside the source are clamped. -/
def point (ix : LineIndex) (offset : Int) : Point :=
  let o := ix.clamp offset
  let line := ix.lineOf o
  ⟨line + 1, (o : Int) - ix.starts.getD line 0 + 1, o⟩

/-- The span between two offsets. -/
def position (ix : LineIndex) (start stop : Int) : Position :=
  ⟨ix.point start, ix.point stop⟩

/-- The offset at which a line starts, counted from zero: a line before the first counts as the
first, one behind the last starts at the end of the source. -/
def lineOffset (ix : LineIndex) (line : Int) : Nat :=
  if (ix.starts.length : Int) ≤ line then ix.size else ix.starts.getD line.toNat 0

end LineIndex
end LiquidMarkdown
