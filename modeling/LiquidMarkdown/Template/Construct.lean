import LiquidMarkdown.Template.FilterArguments
import LiquidMarkdown.Template.Grammar.Statement
import LiquidMarkdown.Template.Rewriting
import LiquidMarkdown.Template.Token.Scan
import LiquidMarkdown.Text.Lines

/-!
# Liquid constructs as templates

Liquid and the template grammar share their delimiters and most of their expressions; three
rewritings close the gap.  This file defines:

* `expandLineTags` — a tag that holds one tag a line, with delimiters around every line;
* `renameIncludes` — `include` tags under a name that takes Liquid's arguments;
* `callFilters` — filter arguments in parentheses, within delimiters only;
* `prepare` — all three in turn;
* `parse` — the template that a text stands for.
-/

namespace LiquidMarkdown
namespace Template

/-! ## Tags with one tag a line -/

/-- The word, if the text begins with it and it ends there. -/
def dropWord? (word t : Text) : Option Text :=
  match Text.dropPrefix? word t with
  | some [] => some []
  | some (c :: cs) => if Unicode.isWord c then none else some (c :: cs)
  | none => none

/-- The text before the first end of a tag, the dash of that end if it has one, and the rest. -/
def breakAtTagEnd (t : Text) : Option (Text × Text × Text) :=
  (breakAt (fun
    | '-' :: '%' :: '}' :: r => some (['-'], r)
    | '%' :: '}' :: r => some ([], r)
    | _ => none) t).map fun (before, dash, rest) => (before, dash, rest)

/-- An optional dash, and the rest. -/
def takeDash : Text → Text × Text
  | '-' :: t => (['-'], t)
  | t => ([], t)

/-- A line of a tag that holds one tag a line, as the inside of a tag of its own. -/
def lineTag (line : Text) : Text :=
  let keyword := line.takeWhile (· ≠ ' ')
  let rest := Text.trim (line.dropWhile (· ≠ ' '))
  if keyword = ("unless" : Text) then ("if not (" : Text) ++ rest ++ ")"
  else
    let keyword : Text :=
      if keyword = ("elsif" : Text) then "elif"
      else if keyword = ("endunless" : Text) then "endif"
      else keyword
    Text.joinWith [' '] ([keyword, rest].filter (· ≠ []))

/-- The lines that hold a tag: not blank, and not a comment behind a number sign. -/
def tagLines (t : Text) : List Text :=
  ((Text.lines t).map Text.trim).filter fun line => line ≠ [] && line.head? ≠ some '#'

/-- The inside of a tag between its delimiters. -/
def wrapTag (inside : Text) : Text :=
  ['{', '%', ' '] ++ inside ++ [' ', '%', '}']

/-- A tag that holds one tag a line, at the start of a text. -/
def lineTagsAt (t : Text) : Option (Text × Text) := do
  let inside ← Text.dropPrefix? ['{', '%'] t
  let (dash, inside) := takeDash inside
  let inside ← dropWord? "liquid" (Text.trimStart inside)
  let (body, endDash, rest) ← breakAtTagEnd inside
  let tags := (tagLines body).flatMap fun line => wrapTag (lineTag line)
  return (['{', '%'] ++ dash ++ " liquid " ++ ['%', '}'] ++ tags ++ ['{', '%'] ++ " endliquid " ++
    endDash ++ ['%', '}'], rest)

/-- Every tag that holds one tag a line, taken apart. -/
def expandLineTags (source : Text) : Text :=
  rewriteAll (.ofFunction lineTagsAt) source

/-! ## Includes -/

/-- An `include` tag at the start of a text. -/
def includeAt (t : Text) : Option (Text × Text) := do
  let inside ← Text.dropPrefix? ['{', '%'] t
  let (dash, inside) := takeDash inside
  let rest ← dropWord? "include" (Text.trimStart inside)
  return (['{', '%'] ++ dash ++ inside.takeWhile Text.isBlank ++ "liquid_include", rest)

/-- Every `include` tag under the name that takes Liquid's arguments. -/
def renameIncludes (source : Text) : Text :=
  rewriteAll (.ofFunction includeAt) source

/-! ## Filters -/

/-- The delimiter that closes a construct, at the start of a text, and the rest. -/
def closeAt? : Text → Option (Text × Text)
  | '-' :: '}' :: '}' :: r => some (['-', '}', '}'], r)
  | '}' :: '}' :: r => some (['}', '}'], r)
  | '-' :: '%' :: '}' :: r => some (['-', '%', '}'], r)
  | '%' :: '}' :: r => some (['%', '}'], r)
  | _ => none

/-- The delimiter that opens a construct, at the start of a text, and the rest. -/
def openAt? : Text → Option (Text × Text)
  | '{' :: '{' :: '-' :: r => some (['{', '{', '-'], r)
  | '{' :: '{' :: r => some (['{', '{'], r)
  | '{' :: '%' :: '-' :: r => some (['{', '%', '-'], r)
  | '{' :: '%' :: r => some (['{', '%'], r)
  | _ => none

/-- A construct at the start of a text, with its filters rewritten. -/
def constructAt (t : Text) : Option (Text × Text) := do
  let (opening, inside) ← openAt? t
  let (body, closing, rest) ← breakAt closeAt? inside
  return (opening ++ FilterArguments.toCalls body ++ closing, rest)

/-- Every construct with its filter arguments in parentheses. -/
def callFilters (source : Text) : Text :=
  rewriteAll (.ofFunction constructAt) source

/-! ## Templates -/

/-- A source in the terms of the template grammar. -/
def prepare (source : Text) : Text :=
  callFilters (renameIncludes (expandLineTags source))

/-- The template that a source stands for. -/
def parse (source : Text) : Except Problem Template :=
  Parse.run Grammar.template (tokens (prepare source))

end Template
end LiquidMarkdown
