import LiquidMarkdown.Text.Basic
import LiquidMarkdown.Unicode.Printable

/-!
# Quoted literals

A text is shown between quotes, with everything that cannot be read as itself escaped.  This file
defines:

* `Text.quoteFor` — the quote that is used: a double quote only where that saves escaping;
* `Text.escapeChar` — the shown form of one character;
* `Text.quoted` — the literal.
-/

namespace LiquidMarkdown
namespace Text

/-- The last `width` hexadecimal digits of a number, lower case, padded with zeros. -/
def hexDigits (width n : Nat) : Text :=
  let ds := Nat.toDigits 16 n
  List.replicate (width - ds.length) '0' ++ ds

/-- A single quote, or a double one if the text holds single quotes and no double ones. -/
def quoteFor (t : Text) : Char :=
  if t.contains '\'' && !t.contains '"' then '"' else '\''

/-- A character as it stands in a literal between the given quotes. -/
def escapeChar (quote c : Char) : Text :=
  if c = quote || c = '\\' then ['\\', c]
  else if c = '\t' then ['\\', 't']
  else if c = '\n' then ['\\', 'n']
  else if c = '\r' then ['\\', 'r']
  else if Unicode.isPrintable c then [c]
  else if c.toNat < 0x100 then '\\' :: 'x' :: hexDigits 2 c.toNat
  else if c.toNat < 0x10000 then '\\' :: 'u' :: hexDigits 4 c.toNat
  else '\\' :: 'U' :: hexDigits 8 c.toNat

/-- The text as a quoted literal. -/
def quoted (t : Text) : Text :=
  let q := quoteFor t
  q :: t.flatMap (escapeChar q) ++ [q]

end Text
end LiquidMarkdown
