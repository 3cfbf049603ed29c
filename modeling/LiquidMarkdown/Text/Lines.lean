import LiquidMarkdown.Text.Basic

/-!
# Lines

A line ends at a line feed, a carriage return (a carriage return with a line feed is one end), a
vertical tab, a form feed, one of the three information separators, or one of the three Unicode
line ends.  This file defines:

* `Text.isLineEnd` — the characters that end a line;
* `Text.lines` — the lines of a text; a last line end opens no further line;
* `Text.normalizeNewlines` — carriage returns turned into line feeds.
-/

namespace LiquidMarkdown
namespace Text

/-- Does the character end a line? -/
def isLineEnd (c : Char) : Bool :=
  let n := c.toNat
  10 ≤ n && n ≤ 13 || 0x1c ≤ n && n ≤ 0x1e || n == 0x85 || n == 0x2028 || n == 0x2029

/-- The lines of a text, where `line` holds the reversed beginning of the current one. -/
def linesFrom (line : Text) : Text → List Text
  | [] => if line = [] then [] else [line.reverse]
  | '\r' :: '\n' :: cs => line.reverse :: linesFrom [] cs
  | c :: cs =>
      if isLineEnd c then line.reverse :: linesFrom [] cs else linesFrom (c :: line) cs

/-- The lines of a text, without their ends. -/
def lines (t : Text) : List Text :=
  linesFrom [] t

/-- Carriage returns, alone or before a line feed, become line feeds. -/
def normalizeNewlines : Text → Text
  | [] => []
  | '\r' :: '\n' :: cs => '\n' :: normalizeNewlines cs
  | c :: cs => (if c = '\r' then '\n' else c) :: normalizeNewlines cs

end Text
end LiquidMarkdown
