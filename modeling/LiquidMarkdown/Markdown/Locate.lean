import LiquidMarkdown.Source.OffsetMap
import LiquidMarkdown.Text.Basic

/-!
# Finding text in a source

The text of a Markdown element need not stand in the source in one piece: its lines may have lost
their indentation, the markers of quotations and the blanks at their ends.  This file defines:

* `findWithin?` — the first occurrence of a text in a part of the source;
* `quotePrefix` — what a line may lose at its start;
* `nextLine?` — the place where the text of the next line starts;
* `locateLines?` — the places of the lines that follow a place;
* `locate?` — the offset map of a text in a part of the source, and the place behind it.

What Markdown has changed, by escapes for instance, is not found.
-/

namespace LiquidMarkdown
namespace Markdown

/-- Does the character indent a line? -/
def isIndent (c : Char) : Bool :=
  c = ' ' || c = '\t'

/-- The first occurrence of a text that starts at `cursor` or later and ends at `limit` or
earlier. -/
def findWithin? (source : Text) (limit : Nat) (t : Text) (cursor : Nat) : Option Nat :=
  Text.findFrom? t cursor (source.take limit)

/-- The text behind angle brackets, each with one blank at most. -/
def dropQuotes : Text → Text
  | '>' :: c :: t => if isIndent c then dropQuotes t else dropQuotes (c :: t)
  | '>' :: t => t
  | t => t
termination_by t => t.length

/-- The text of a line without the indentation and the markers of quotations before it. -/
def quotePrefix (t : Text) : Text :=
  (dropQuotes (t.dropWhile isIndent)).dropWhile isIndent

/-- The place where the text of the next line starts, if only blanks come before it ends. -/
def nextLine? (source : Text) (place : Nat) : Option Nat :=
  match (source.drop place).dropWhile isIndent with
  | '\n' :: t => some (source.length - (quotePrefix t).length)
  | _ => none

/-- The segments of the lines that follow a place, and the place behind them; `index` is where the
first of them starts in the text. -/
def locateLines? (source : Text) (limit : Nat) (index place : Nat) :
    List Text → Option (List (Int × Int) × Nat)
  | [] => some ([], place)
  | line :: lines => do
      let start ← nextLine? source place
      let stop := start + line.length
      if limit < stop || !Text.startsWith line (source.drop start) then none
      let (segments, place) ← locateLines? source limit (index + line.length + 1) stop lines
      return (((index : Int), (start : Int)) :: segments, place)

/-- The offset map of a text in the source between `cursor` and `limit`, and the place behind it.
An occurrence in one piece takes precedence. -/
def locate? (source : Text) (limit : Nat) (t : Text) (cursor : Nat) : Option (OffsetMap × Nat) :=
  if t = [] then none
  else match findWithin? source limit t cursor with
    | some start => some (.contiguous start, start + t.length)
    | none => match Text.splitAt '\n' t with
        | [] => none
        | line :: lines => do
            let start ← findWithin? source limit line cursor
            let (segments, place) ←
              locateLines? source limit (line.length + 1) (start + line.length) lines
            return (⟨(0, (start : Int)) :: segments⟩, place)

end Markdown
end LiquidMarkdown
