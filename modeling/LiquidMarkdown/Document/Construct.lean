import LiquidMarkdown.Tag.Tables
import LiquidMarkdown.Template.Tree

/-!
# Constructs

What is known about a Liquid construct: its text, how reading it came out, and how it is paired
with other constructs.  This file defines:

* `Outcome` — not yet read, read, or not readable;
* `Diagnostic`, `Parsed` — what reading left behind;
* `Construct` — the fields that every construct has, with `succeed`, `fail` and `reset`;
* `Tag` — a tag with its name and its roles.

Outcome, error and what was read are fields of their own, since a caller may set each by itself.
-/

namespace LiquidMarkdown

/-- How reading a construct came out. -/
inductive Outcome where
  | pending
  | success
  | failed
  deriving DecidableEq, Repr

namespace Outcome

/-- The word for an outcome. -/
def name : Outcome → Text
  | pending => "pending"
  | success => "success"
  | failed => "failed"

/-- The outcome that a word stands for. -/
def ofName? (t : Text) : Option Outcome :=
  [pending, success, failed].find? (·.name = t)

theorem ofName?_name (o : Outcome) : ofName? o.name = some o := by
  cases o <;> decide

end Outcome

/-- What is kept of a construct that could not be read. -/
structure Diagnostic where
  /-- The kind of construct. -/
  kind : Text
  content : Text
  error : Text
  tagName : Option Text
  deriving DecidableEq, Repr

/-- What reading a construct left behind. -/
inductive Parsed where
  | template (t : Template)
  | diagnostic (d : Diagnostic)

/-- The number of a tag in its document, in document order. -/
abbrev TagId := Nat

/-- What is known about a construct. -/
structure Construct where
  /-- The construct as it is written. -/
  raw : Text
  /-- The text that was read. -/
  source : Option Text := none
  /-- The text between the delimiters. -/
  inner : Option Text := none
  outcome : Outcome := .pending
  error : Option Text := none
  parsed : Option Parsed := none
  /-- The block that the construct belongs to. -/
  blockId : Option Text := none
  /-- The block that was opened before and that the construct closes or continues. -/
  matchingId : Option Text := none
  /-- The tags that the construct is paired with. -/
  related : List TagId := []

namespace Construct

/-- Was the construct read? -/
def isSuccess (c : Construct) : Bool :=
  c.outcome == .success

/-- Was it read or not, unless that is open. -/
def success? (c : Construct) : Option Bool :=
  match c.outcome with
  | .pending => none
  | .success => some true
  | .failed => some false

/-- The construct was read. -/
def succeed (c : Construct) (parsed : Option Parsed) : Construct :=
  { c with outcome := .success, error := none, parsed := parsed }

/-- The construct could not be read. -/
def fail (c : Construct) (error kind : Text) (tagName : Option Text) : Construct :=
  { c with
    outcome := .failed
    error := some error
    parsed := some (.diagnostic ⟨kind, c.inner.getD c.raw, error, tagName⟩) }

/-- Nothing is known about the reading and the pairing of the construct. -/
def reset (c : Construct) : Construct :=
  { c with
    outcome := .pending
    error := none
    parsed := none
    blockId := none
    matchingId := none
    related := [] }

end Construct

/-- A tag. -/
structure Tag extends Construct where
  name : Text := Tag.unknownName
  isStart : Bool := false
  isEnd : Bool := false
  isContinuation : Bool := false

namespace Tag

/-- Does the tag open, close or continue a block? -/
def hasBlockRole (t : Tag) : Bool :=
  t.isStart || t.isEnd || t.isContinuation

/-- The kind of construct that diagnostics of tags name. -/
def kindName : Text := "tag"

/-- The tag was read. -/
def succeed (t : Tag) (parsed : Option Parsed) : Tag :=
  { t with toConstruct := t.toConstruct.succeed parsed }

/-- The tag could not be read. -/
def fail (t : Tag) (error kind : Text) : Tag :=
  { t with toConstruct := t.toConstruct.fail error kind (some t.name) }

/-- Nothing is known about the reading and the pairing of the tag. -/
def reset (t : Tag) : Tag :=
  { t with toConstruct := t.toConstruct.reset }

end Tag
end LiquidMarkdown
