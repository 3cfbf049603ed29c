import LiquidMarkdown.Markdown.Element
import LiquidMarkdown.Markdown.Line

/-!
# Tables

A table starts with a line of titles and a line of rules.  This file defines:

* `Table.cells` — the cells of a line, between bars that no backslash protects;
* `Table.alignments?` — the alignments that a line of rules gives to the columns;
* `Table.Header` and `Scope.tableHeader?` — the columns of the table that starts at a line;
* `Table.rowElement`, `Table.headElement` — lines of a table as elements.
-/

namespace LiquidMarkdown
namespace Markdown
namespace Table

/-! ## Cells -/

/-- The fields between bars; `field` is the reversed beginning of the current one.  A bar behind a
backslash belongs to its field, without the backslash. -/
def fieldsFrom (field : Text) (escaped : Bool) : Text → List Text
  | [] => [field.reverse]
  | c :: t =>
      if c = '|' then
        if escaped then fieldsFrom ('|' :: field.drop 1) false t
        else field.reverse :: fieldsFrom [] false t
      else fieldsFrom (c :: field) (c = '\\') t

/-- The fields without an empty one at each end. -/
def dropOuter (fields : List Text) : List Text :=
  let fields := if fields.head? == some [] then fields.drop 1 else fields
  if fields.getLast? == some [] then fields.dropLast else fields

/-- The cells of a line. -/
def cells (t : Text) : List Text :=
  dropOuter (fieldsFrom [] false t)

/-! ## Rules -/

/-- Where the texts of a column stand. -/
inductive Alignment where
  | unset
  | left
  | center
  | right
  deriving DecidableEq, Repr

/-- What a cell says about its alignment. -/
def Alignment.attributes (a : Alignment) : Data :=
  let style (t : Text) : Data := [("style", .text (("text-align:" : Text) ++ t))]
  match a with
  | unset => []
  | left => style "left"
  | center => style "center"
  | right => style "right"

/-- May the character stand in a line of rules? -/
def isRuleChar (c : Char) : Bool :=
  c = '|' || c = '-' || c = ':'

/-- Does a line hold nothing but rules?  A hyphen with a blank behind it would start a list. -/
def isRuleLine (t : Text) : Bool :=
  match t with
  | c :: d :: _ =>
      isRuleChar c && !(c = '-' && isSpace d) && t.all fun e => isRuleChar e || isSpace e
  | _ => false

/-- The alignment that a rule gives. -/
def Alignment.ofRule? (t : Text) : Option Alignment :=
  let isLeft := t.head? == some ':'
  let u := if isLeft then t.drop 1 else t
  let dashes := u.takeWhile (· = '-')
  if dashes = [] then none
  else match u.drop dashes.length with
    | [] => some (if isLeft then left else unset)
    | [':'] => some (if isLeft then center else right)
    | _ => none

/-- The alignments of a line of rules; only the first and the last field may be empty. -/
def alignments? (t : Text) : Option (List Alignment) :=
  (dropOuter ((Text.splitAt '|' t).map trimPadding)).mapM Alignment.ofRule?

/-! ## Headers -/

/-- The columns of a table: their titles and their alignments, as many as there are titles. -/
structure Header where
  titles : List Text
  alignments : List Alignment

end Table

/-- The columns of the table that starts at a line. -/
def Scope.tableHeader? (s : Scope) (start stop : Nat) : Option Table.Header := do
  if stop < start + 2 || s.isOutdented (start + 1) || s.isCode (start + 1) then none
  let rules := (s.line (start + 1)).body
  if !Table.isRuleLine rules then none
  let alignments ← Table.alignments? rules
  let title := trimPadding (s.line start).body
  if !title.contains '|' || s.isCode start then none
  let titles := Table.cells title
  if titles = [] || titles.length ≠ alignments.length then none
  return ⟨titles, alignments⟩

namespace Table

/-! ## Elements -/

/-- The most cells that lines with too few of them may be filled up with. -/
def fillLimit : Nat := 0x10000

/-- A line of a table. -/
def rowElement (cellType : Text) (header : Header) (texts : List Text) (line : Nat) : Element :=
  .node { type := "tr", lines := some (line, line + 1) }
    (header.alignments.mapIdx fun i a =>
      .node { type := cellType, attributes := a.attributes }
        [.running (trimPadding (texts.getD i []))])

/-- The first line of a table. -/
def headElement (header : Header) (line : Nat) : Element :=
  .node { type := "thead", lines := some (line, line + 1) }
    [rowElement "th" header header.titles line]

end Table
end Markdown
end LiquidMarkdown
