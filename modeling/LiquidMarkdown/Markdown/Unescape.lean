import LiquidMarkdown.Markdown.Character
import LiquidMarkdown.Markdown.EntityTable
import LiquidMarkdown.Unicode.Punctuation

/-!
# Escapes and character references

A character may be written with a backslash before it, by name between an ampersand and a
semicolon, or by number.  This file defines:

* `namedCharacters` — the characters with names;
* `isReferable` — the numbers that may be referred to;
* `CharacterReference.read?` — the reference at the beginning of a running text;
* `unescape` — a text with all its escapes and references resolved, as in link destinations.
-/

namespace LiquidMarkdown
namespace Markdown

/-! ## Characters by name and by number -/

/-- The characters that a list of hexadecimal numbers with plus signs stands for. -/
def charactersOf (t : Text) : Text :=
  (Text.splitAt '+' t).map fun ds => Char.ofNat (hexNumber ds)

/-- Names and characters from words in turn. -/
def namesOf : List Text → List (Text × Text)
  | name :: codes :: rest => (name, charactersOf codes) :: namesOf rest
  | _ => []

/-- The characters with names. -/
def namedCharacters : List (Text × Text) :=
  namesOf (entityLines.flatMap fun line => Text.splitAt ' ' line.toList)

/-- Does a number stand for a character that may be referred to?  Surrogates, noncharacters and
most control characters do not. -/
def isReferable (n : Nat) : Bool :=
  !(0xd800 ≤ n && n ≤ 0xdfff || 0xfdd0 ≤ n && n ≤ 0xfdef || 0xfffe ≤ n % 0x10000 || n ≤ 8 ||
    n == 0xb || 0xe ≤ n && n ≤ 0x1f || 0x7f ≤ n && n ≤ 0x9f || 0x10ffff < n)

/-- The character that stands for what cannot be shown. -/
def replacement : Char :=
  Char.ofNat 0xfffd

/-- The digits of a reference by number behind its number sign, with their base. -/
def splitNumber (t : Text) : Nat × Text :=
  match t with
  | 'x' :: ds | 'X' :: ds => (16, ds)
  | ds => (10, ds)

/-- The number that digits of a base stand for, if there is at least one and at most a certain
count of them. -/
def numberOf? (base most : Nat) (ds : Text) : Option Nat :=
  let isDigit := if base = 16 then isHexDigit else Char.isDigit
  if ds ≠ [] && ds.length ≤ most && ds.all isDigit then
    some (if base = 16 then hexNumber ds else decimalNumber ds)
  else none

/-! ## References in running text -/

/-- A character reference: the characters that it stands for, and how it is written. -/
structure CharacterReference where
  characters : Text
  source : Text

namespace CharacterReference

/-- The text up to the first semicolon. -/
def name? (t : Text) : Option Text :=
  (Text.breakOn [';'] t).map (·.1)

/-- The character of a number, or the replacement. -/
def byNumber (n : Nat) : Text :=
  [if isReferable n then Char.ofNat n else replacement]

/-- The reference with which a running text begins: a known name, up to seven decimal digits or up
to six hexadecimal ones. -/
def read? : Text → Option CharacterReference
  | '&' :: '#' :: t => do
      let name ← name? t
      let (base, ds) := splitNumber name
      let n ← numberOf? base (if base = 16 then 6 else 7) ds
      return ⟨byNumber n, '&' :: '#' :: name ++ [';']⟩
  | '&' :: t => do
      let name ← name? t
      let characters ← namedCharacters.lookup name
      return ⟨characters, '&' :: name ++ [';']⟩
  | _ => none

end CharacterReference

/-! ## Whole texts -/

/-- The characters of a reference with a given name or number, unless nothing is referred to. -/
def referred? (name : Text) : Option Text :=
  match name with
  | '#' :: t =>
      let (base, ds) := splitNumber t
      (numberOf? base 8 ds).bind fun n => if isReferable n then some [Char.ofNat n] else none
  | name => namedCharacters.lookup name

/-- The reference with which a text begins, and the rest behind it. -/
def reference? (t : Text) : Option (Text × Text) := do
  let (name, rest) ← Text.breakOn [';'] t
  return (← referred? name, rest)

theorem length_lt_of_reference? {t u r : Text} (h : reference? t = some (u, r)) :
    r.length < t.length := by
  simp only [reference?, Option.bind_eq_bind, Option.bind_eq_some_iff] at h
  obtain ⟨⟨name, rest⟩, hb, v, _, hr⟩ := h
  cases hr
  exact Text.length_lt_of_breakOn (by simp) hb

/-- The text with its escapes and references resolved.  A backslash stands for itself before
anything but ASCII punctuation, and so does an ampersand that opens no reference. -/
def unescape : Text → Text
  | [] => []
  | '\\' :: c :: t =>
      if Unicode.isAsciiPunctuation c then c :: unescape t else '\\' :: unescape (c :: t)
  | '&' :: t =>
      match _h : reference? t with
      | some (u, rest) => u ++ unescape rest
      | none => '&' :: unescape t
  | c :: t => c :: unescape t
termination_by t => t.length
decreasing_by
  all_goals simp only [List.length_cons]
  all_goals first
    | omega
    | exact Nat.lt_succ_of_lt (length_lt_of_reference? _h)

end Markdown
end LiquidMarkdown
