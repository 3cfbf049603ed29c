import LiquidMarkdown.Console.Wrap

/-!
# Outlines

An outline shows a tree with one entry under the other and guides from each entry to its parent.
This file defines:

* `Outline` — an entry with the entries under it;
* `Outline.lines` — the outline as lines of text.
-/

namespace LiquidMarkdown
namespace Console

/-- An entry with the entries under it. -/
inductive Outline where
  | entry (label : Text) (entries : List Outline)

namespace Outline

/-- The cells that a guide takes. -/
def guideWidth : Nat := 4

/-- The lines of a label: `first` comes before the first line, `further` before the others.  Where
no place is left, nothing is shown. -/
def labelLines (first further : Text) (width : Nat) (label : Text) : List Text :=
  match if width = 0 then [] else wrap .fold width label with
  | [] => []
  | l :: ls => (first ++ l) :: ls.map (further ++ ·)

mutual

/-- The lines of an outline behind guides. -/
def linesBehind (first further : Text) (width : Nat) : Outline → List Text
  | entry label entries =>
      labelLines first further width label ++ entryLines further (width - guideWidth) entries

/-- The lines of the entries under an entry, whose guides come before them. -/
def entryLines (guides : Text) (width : Nat) : List Outline → List Text
  | [] => []
  | [e] => linesBehind (guides ++ "└── ") (guides ++ "    ") width e
  | e :: es =>
      linesBehind (guides ++ "├── ") (guides ++ "│   ") width e ++ entryLines guides width es

end

/-- The outline as lines of text in a place of a given width. -/
def lines (width : Nat) (o : Outline) : List Text :=
  linesBehind [] [] width o

end Outline
end Console
end LiquidMarkdown
