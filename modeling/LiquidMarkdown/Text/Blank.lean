import LiquidMarkdown.Text.Basic

/-!
# Blank characters

Which characters count as blank around names, arguments and lines, and how blanks are trimmed.
This file defines:

* `Text.isBlank` — the blank characters: spaces of every width, line and paragraph separators,
  and the control characters that separate;
* `Text.trimStart`, `Text.trimEnd`, `Text.trim`;
* `Text.trimAll` — trimming of a chosen class of characters.
-/

namespace LiquidMarkdown
namespace Text

/-- Is the character blank? -/
def isBlank (c : Char) : Bool :=
  let n := c.toNat
  9 ≤ n && n ≤ 13 || 0x1c ≤ n && n ≤ 0x20 || n == 0x85 || n == 0xa0 || n == 0x1680 ||
    0x2000 ≤ n && n ≤ 0x200a || n == 0x2028 || n == 0x2029 || n == 0x202f || n == 0x205f ||
    n == 0x3000

/-- The text without its leading members of a class. -/
def dropStart (p : Char → Bool) (t : Text) : Text :=
  t.dropWhile p

/-- The text without its trailing members of a class. -/
def dropEnd (p : Char → Bool) (t : Text) : Text :=
  (t.reverse.dropWhile p).reverse

/-- The text without its leading and trailing members of a class. -/
def trimAll (p : Char → Bool) (t : Text) : Text :=
  dropEnd p (dropStart p t)

/-- The text without leading blanks. -/
abbrev trimStart (t : Text) : Text :=
  dropStart isBlank t

/-- The text without trailing blanks. -/
abbrev trimEnd (t : Text) : Text :=
  dropEnd isBlank t

/-- The text without leading and trailing blanks. -/
abbrev trim (t : Text) : Text :=
  trimAll isBlank t

/-- The trailing members of a class. -/
def takeEnd (p : Char → Bool) (t : Text) : Text :=
  (t.reverse.takeWhile p).reverse

theorem dropEnd_append_takeEnd (p : Char → Bool) (t : Text) :
    dropEnd p t ++ takeEnd p t = t := by
  simp [dropEnd, takeEnd, ← List.reverse_append, List.takeWhile_append_dropWhile]

end Text
end LiquidMarkdown
