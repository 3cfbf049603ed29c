import LiquidMarkdown.Document.Node

/-!
# Errors of callers

A malformed construct is never an error; a tree that is none is.  This file defines:

* `DocumentError` — what a caller can do wrong;
* `DocumentError.message` — the wording;
* `exists_ok_of_bind` — steps that may fail succeed one after another.
-/

namespace LiquidMarkdown

/-- What a caller can hand in that is no usable document. -/
inductive DocumentError where
  /-- Nothing in place of a tree. -/
  | noDocument
  /-- A root without a list of children, or nothing in its place. -/
  | badRoot (kind : Option Kind)
  /-- A text with an offset map that has no segment. -/
  | emptyOffsetMap
  /-- A block without a list of children. -/
  | noChildren

namespace Kind

/-- The word for a kind of node in messages. -/
def nodeName : Kind → Text
  | plain => "DocNode"
  | expression _ => "LiquidExpressionNode"
  | tag _ => "LiquidTagNode"
  | block .. => "LiquidBlockNode"

end Kind

namespace DocumentError

/-- The wording of an error. -/
def message : DocumentError → Text
  | noDocument => "Error: No document tree given"
  | badRoot kind =>
      ("Error: Document tree root must be a node with a children list" : Text) ++
        match kind with
        | none => []
        | some k => ("\n  Received: " : Text) ++ k.nodeName
  | emptyOffsetMap => "list index out of range"
  | noChildren => "object of type 'NoneType' has no len()"

end DocumentError

/-- A step that succeeds goes on with its result. -/
theorem exists_ok_of_bind {α β : Type} {x : Except DocumentError α}
    {f : α → Except DocumentError β} {b : β} (h : (do f (← x)) = .ok b) :
    ∃ a, x = .ok a ∧ f a = .ok b := by
  cases x with
  | error e => cases h
  | ok a => exact ⟨a, rfl, h⟩

end LiquidMarkdown
