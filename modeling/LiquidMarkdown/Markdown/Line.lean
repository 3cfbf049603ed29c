import LiquidMarkdown.Markdown.Character

/-!
# Lines of Markdown

Blocks are found line by line.  What counts of a line is how far its text is indented; containers
take their markers off the lines that they hold.  This file defines:

* `Line` — a line inside the containers that it stands in;
* `Line.all` — the lines of a text;
* `Line.cut` — a line without a number of columns of indentation;
* `Scope` — the lines of a document as a container sees them;
* `Scope.content` — the text of some lines.

A tab reaches to the next column that is a multiple of four.
-/

namespace LiquidMarkdown
namespace Markdown

/-! ## Lines -/

/-- A line inside the containers that it stands in. -/
structure Line where
  /-- The characters behind the markers of the containers, without the line feed. -/
  text : Text := []
  /-- How many of them come before the text of the line. -/
  shift : Nat := 0
  /-- How far the text is indented; negative if the line merely continues a paragraph. -/
  indent : Int := 0
  /-- The column at which the characters start, as far as tabs are concerned. -/
  base : Nat := 0
  /-- Does a line feed end the line? -/
  hasBreak : Bool := false
  deriving Inhabited

/-- The column behind a space or a tab at a column, where tabs are shifted by `base`. -/
def columnBehind (base : Nat) (c : Char) (column : Nat) : Nat :=
  if c = '\t' then column + (4 - (column + base) % 4) else column + 1

/-- How many spaces and tabs a text begins with, and the column behind them. -/
def measure (base column : Nat) (t : Text) : Nat × Nat :=
  let blanks := t.takeWhile isSpace
  (blanks.length, blanks.foldl (fun column c => columnBehind base c column) column)

namespace Line

/-- A line of a text outside all containers. -/
def ofText (t : Text) (hasBreak : Bool) : Line :=
  let (shift, indent) := measure 0 0 t
  { text := t, shift := shift, indent := indent, hasBreak := hasBreak }

/-- The lines of fields between line feeds.  What follows the last line feed is no line if there
is nothing but spaces and tabs. -/
def ofFields : List Text → List Line
  | [] => []
  | [t] => if t.all isSpace then [] else [ofText t false]
  | t :: ts => ofText t true :: ofFields ts

/-- The lines of a text. -/
def all (t : Text) : List Line :=
  ofFields (Text.splitAt '\n' t)

/-- The text of the line, without indentation. -/
def body (l : Line) : Text :=
  l.text.drop l.shift

/-- Is there no text? -/
def isEmpty (l : Line) : Bool :=
  l.text.length ≤ l.shift

/-- The text of the line with its line feed. -/
def bodyWithBreak (l : Line) : Text :=
  l.body ++ if l.hasBreak then ['\n'] else []

/-- Does the whole text end before this line has begun? -/
def isBehindEnd (l : Line) : Bool :=
  l.isEmpty && !l.hasBreak

/-- Take columns of indentation off a text: `column` were taken, `shift` characters may be taken
that are no blanks. -/
def cutFrom (base indent column shift : Nat) : Text → Text
  | [] => List.replicate (column - indent) ' '
  | c :: t =>
      if indent ≤ column then List.replicate (column - indent) ' ' ++ c :: t
      else if isSpace c then cutFrom base indent (columnBehind base c column) (shift - 1) t
      else if shift = 0 then c :: t
      else cutFrom base indent (column + 1) (shift - 1) t

/-- The line without a number of columns of indentation; a tab that reaches beyond them leaves
spaces. -/
def cut (l : Line) (indent : Nat) : Text :=
  cutFrom l.base indent 0 l.shift l.text

end Line

/-! ## Scopes -/

/-- The lines of a document as a container sees them. -/
structure Scope where
  lines : Array Line
  /-- The line that no paragraph goes beyond. -/
  limit : Nat
  /-- The indentation of the contents of the container. -/
  indent : Nat := 0
  /-- The indentation of the list that the container is an item of. -/
  listIndent : Option Nat := none

namespace Scope

/-- A line; behind the last one lines are empty. -/
def line (s : Scope) (i : Nat) : Line :=
  s.lines.getD i {}

/-- Is the line indented so far that it is code? -/
def isCode (s : Scope) (i : Nat) : Bool :=
  (s.indent : Int) + 4 ≤ (s.line i).indent

/-- Is the line indented less than the contents of the container? -/
def isOutdented (s : Scope) (i : Nat) : Bool :=
  (s.line i).indent < s.indent

/-- How many empty lines there are from a line on, where `n` lines are looked at. -/
def emptyRun (s : Scope) (i : Nat) : (n : Nat) → Nat
  | 0 => 0
  | n + 1 => if (s.line i).isEmpty then s.emptyRun (i + 1) n + 1 else 0

/-- The first line from a line on that is not empty. -/
def skipEmpty (s : Scope) (i : Nat) : Nat :=
  i + s.emptyRun i (s.limit - i)

/-- The text of the lines from `start` up to `stop` without a number of columns of indentation. -/
def content (s : Scope) (start stop indent : Nat) (keepLastBreak : Bool) : Text :=
  (List.range (stop - start)).flatMap fun k =>
    let l := s.line (start + k)
    let isLast := start + k + 1 == stop
    l.cut indent ++ if l.hasBreak && (keepLastBreak || !isLast) then ['\n'] else []

/-- The scope with some lines changed. -/
def setLine (s : Scope) (i : Nat) (l : Line) : Scope :=
  { s with lines := s.lines.setIfInBounds i l }

end Scope
end Markdown
end LiquidMarkdown
