import LiquidMarkdown.Construct.Delimiters
import LiquidMarkdown.Document.Node
import LiquidMarkdown.Template.Construct

/-!
# Reading constructs

Each construct is read by itself: its content is set and the outcome recorded.  A tag that opens,
closes or continues a block cannot be read alone; it has failed until it is paired.  This file
defines:

* `Construct.readExpression` — a printed expression;
* `Tag.read` — a tag: its name, its roles, and its reading if it stands alone;
* `Construct.readBlock` — a block, whose outcome is settled by its tags;
* `Label.read` — the label of any node.

A construct without text stays as it is.
-/

namespace LiquidMarkdown

namespace Construct

/-- The construct with its own text as what was read. -/
def withContent (c : Construct) (d : Delimiters) : Construct :=
  { c with source := some c.raw, inner := some (d.strip c.raw) }

/-- Read a printed expression. -/
def readExpression (c : Construct) : Construct :=
  if c.raw = [] then c
  else
    let c := c.withContent .expression
    match Template.parse c.raw with
    | .ok t => c.succeed (some (.template t))
    | .error p => c.fail p.message "expression" none

/-- Read the content of a block, and the name of its opening tag. -/
def readBlock (name : Text) (c : Construct) : Text × Construct :=
  if c.raw = [] then (name, c)
  else
    let c := c.withContent .tag
    (Tag.nameOf (c.inner.getD []), c)

end Construct

namespace Tag

/-- The tag with its name and its roles. -/
def withRole (t : Tag) (T : TagTables) (name : Text) : Tag :=
  let role := T.role name
  { t with
    name := name
    isStart := role == .blockStart
    isEnd := role == .blockEnd
    isContinuation := role == .continuation }

/-- What is wrong with a tag that is part of a block, before it is paired. -/
def unpairedMessage (t : Tag) : Text :=
  if t.isStart then
    ("Block tag '" : Text) ++ t.name ++ "' requires a matching '" ++ endOf t.name ++ "' tag"
  else ("Tag '" : Text) ++ t.name ++ "' is part of a block structure"

/-- The text that a tag which stands alone is read from. -/
def readable (inner : Text) : Text :=
  Template.wrapTag inner

/-- Read a tag. -/
def read (T : TagTables) (t : Tag) : Tag :=
  if t.raw = [] then t
  else
    let inner := Delimiters.tag.strip t.raw
    let t := { t with toConstruct := t.toConstruct.withContent .tag }
    let t := t.withRole T (nameOf inner)
    if t.hasBlockRole then t.fail t.unpairedMessage kindName
    else match Template.parse (readable inner) with
      | .ok template => t.succeed (some (.template template))
      | .error p => t.fail p.message kindName

end Tag

/-- Read the construct of a node, if it is one. -/
def Label.read (T : TagTables) (l : Label) : Label :=
  match l.kind with
  | .plain => l
  | .expression c => { l with kind := .expression c.readExpression }
  | .tag t => { l with kind := .tag (t.read T) }
  | .block name c =>
      let (name, c) := c.readBlock name
      { l with kind := .block name c }

end LiquidMarkdown
