import LiquidMarkdown.Tag.Name

/-!
# Delimiters of constructs

A printed expression stands between double braces, a tag between a brace and a per cent sign; a
dash inside a delimiter trims the outer side when a page is rendered.  This file defines:

* `Delimiters` — an opening and a closing delimiter, `Delimiters.expression`, `Delimiters.tag`;
* `Delimiters.wrap` — a content between its delimiters;
* `Delimiters.strip` — a construct without delimiters, dashes and the blanks inside.
-/

namespace LiquidMarkdown

/-- What opens and what closes a construct. -/
structure Delimiters where
  opening : Text
  closing : Text
  deriving DecidableEq, Repr

namespace Delimiters

/-- The delimiters of a printed expression. -/
def expression : Delimiters :=
  ⟨['{', '{'], ['}', '}']⟩

/-- The delimiters of a tag. -/
def tag : Delimiters :=
  ⟨['{', '%'], ['%', '}']⟩

/-- A content between its delimiters. -/
def wrap (d : Delimiters) (content : Text) : Text :=
  d.opening ++ content ++ d.closing

/-- The text without an opening delimiter, its dash, and the blanks behind. -/
def stripOpening (d : Delimiters) (t : Text) : Text :=
  match Text.dropPrefix? d.opening t with
  | some r => Text.trimStart (Tag.dropDash r)
  | none => t

/-- The text without a closing delimiter at its end, if it has one there. -/
def stripClosingAtEnd? (d : Delimiters) (t : Text) : Option Text :=
  (Text.dropPrefix? d.closing.reverse t.reverse).map fun r =>
    Text.trimEnd (Tag.dropDash r).reverse

/-- The text without a closing delimiter at its end, its dash, and the blanks before; one line feed
may follow the delimiter, and stays. -/
def stripClosing (d : Delimiters) (t : Text) : Text :=
  match d.stripClosingAtEnd? t with
  | some r => r
  | none =>
      if t.getLast? = some '\n' then
        match d.stripClosingAtEnd? t.dropLast with
        | some r => r ++ ['\n']
        | none => t
      else t

/-- The content of a construct: without delimiters, dashes and the blanks inside. -/
def strip (d : Delimiters) (t : Text) : Text :=
  d.stripClosing (d.stripOpening t)

end Delimiters
end LiquidMarkdown
