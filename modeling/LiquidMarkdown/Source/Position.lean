/-!
# Positions in a source

* `Point` — a place in a source, by line, column and offset; lines and columns count from one,
  offsets count characters from zero;
* `Position` — the places at which something starts and stops.

The numbers are integers, because a caller may hand in a place that no source has.
-/

namespace LiquidMarkdown

/-- A place in a source. -/
structure Point where
  line : Int
  column : Int
  offset : Int
  deriving DecidableEq, Repr

/-- From the first character of a span to the place behind its last one. -/
structure Position where
  start : Point
  stop : Point
  deriving DecidableEq, Repr

end LiquidMarkdown
