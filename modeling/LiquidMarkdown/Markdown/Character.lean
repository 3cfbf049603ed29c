import LiquidMarkdown.Text.Blank

/-!
# Character classes of Markdown

* `isSpace` — spaces and tabs, which indent lines and separate markers from text;
* `isGap` — the blanks on which emphasis may not lean;
* `isPadding`, `trimPadding` — the blanks around a paragraph, a title, a cell or a label.
-/

namespace LiquidMarkdown
namespace Markdown

/-- A space or a tab. -/
def isSpace (c : Char) : Bool :=
  c = ' ' || c = '\t'

/-- A space, a tab or a line feed. -/
def isSpaceOrBreak (c : Char) : Bool :=
  isSpace c || c = '\n'

/-- The blanks next to which a delimiter neither opens nor closes. -/
def isGap (c : Char) : Bool :=
  let n := c.toNat
  9 ≤ n && n ≤ 13 || n == 0x20 || n == 0xa0 || n == 0x1680 || 0x2000 ≤ n && n ≤ 0x200a ||
    n == 0x202f || n == 0x205f || n == 0x3000

/-- The blanks that do not count around a text: the gaps, and the separators of lines and
paragraphs.  Other control characters count. -/
def isPadding (c : Char) : Bool :=
  isGap c || c.toNat == 0x2028 || c.toNat == 0x2029

/-- The text without the blanks around it. -/
def trimPadding (t : Text) : Text :=
  Text.trimAll isPadding t

/-- The value of a hexadecimal digit. -/
def hexValue? (c : Char) : Option Nat :=
  let n := c.toNat
  if c.isDigit then some (n - 48)
  else if 'a' ≤ c && c ≤ 'f' then some (n - 87)
  else if 'A' ≤ c && c ≤ 'F' then some (n - 55)
  else none

/-- Is the character a hexadecimal digit? -/
def isHexDigit (c : Char) : Bool :=
  (hexValue? c).isSome

/-- The number that hexadecimal digits stand for. -/
def hexNumber (t : Text) : Nat :=
  t.foldl (fun n c => 16 * n + (hexValue? c).getD 0) 0

/-- The number that decimal digits stand for. -/
def decimalNumber (t : Text) : Nat :=
  t.foldl (fun n c => 10 * n + (c.toNat - 48)) 0

end Markdown
end LiquidMarkdown
