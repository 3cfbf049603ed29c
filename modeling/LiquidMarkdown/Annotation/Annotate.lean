import LiquidMarkdown.Annotation.Read
import LiquidMarkdown.Document.Segment
import LiquidMarkdown.Pairing.Check

/-!
# Annotating a document

A document is annotated in four steps: its texts are split, its constructs are read, its tags are
paired, and its blocks take over the outcome of their tags.  This file defines:

* `Node.roster` — the tags of a tree as a roster;
* `Node.pairTags` — a tree with its tags paired and checked;
* `Node.settleBlocks` — a tree whose blocks have the outcome of their tags;
* `annotate` — all steps in turn.
-/

namespace LiquidMarkdown

/-! ## Tags -/

namespace Node

/-- The tags of a tree, numbered in document order. -/
def roster (n : Node) : Roster :=
  n.tagLabels.map fun (l, t) => { toTag := t, position := l.position }

/-- The tree with the tags of a roster in the place of its own. -/
def withRoster (n : Node) (r : Roster) : Node :=
  (n.withTags (r.map (·.toTag))).1

end Node

namespace Pairing

/-- A pairing and its check: the roster after each, and what they came to. -/
structure Run where
  associated : Roster
  result : Result
  checked : Roster
  added : List Text

/-- Pair all tags of a roster with fresh block ids, and check the pairing. -/
def run (T : TagTables) (r : Roster) : Run :=
  let all := List.range r.length
  let (associated, result, _) := associate T {} r all
  let (checked, added) := check associated all
  ⟨associated, result, checked, added⟩

end Pairing

/-- The tree with its tags paired and checked. -/
def Node.pairTags (T : TagTables) (n : Node) : Node :=
  n.withRoster (Pairing.run T n.roster).checked

/-! ## Blocks -/

/-- What is wrong with a block whose tags give no reason. -/
def malformedBlock : Text := "Block is not well formed"

/-- A block with the outcome of its opening tag and of its closing tag. -/
def settle (name : Text) (c : Construct) (opening : Tag) (closing : Option Tag) : Construct :=
  let c := { c with blockId := opening.blockId }
  match (opening :: closing.toList).find? fun t => !t.isSuccess with
  | none => c.succeed none
  | some t =>
      let error := match t.error with
        | some (x :: xs) => x :: xs
        | _ => malformedBlock
      c.fail error "block" (some name)

/-- The tag that is the first of a list of nodes. -/
def openingTag? (ns : List Node) : Option Tag :=
  ns.head?.bind (·.label.kind.tag?)

/-- The tag that is the last of a list of several nodes. -/
def closingTag? : List Node → Option Tag
  | n :: m :: ns => ((n :: m :: ns).getLast?).bind (·.label.kind.tag?)
  | _ => none

/-- The label of a block with the outcome of the tags among its children. -/
def Label.settle (l : Label) (children : List Node) : Label :=
  match l.kind, openingTag? children with
  | .block name c, some opening =>
      { l with kind := .block name (LiquidMarkdown.settle name c opening (closingTag? children)) }
  | _, _ => l

namespace Node

mutual

/-- The tree whose blocks have the outcome of their tags; every block has to have a list of
children. -/
def settleBlocks : Node → Except DocumentError Node
  | branch l cs => do return branch (l.settle cs) (← settleBlocksAll cs)
  | stub l => match l.kind with
      | .block .. => .error .noChildren
      | _ => .ok (stub l)

def settleBlocksAll : List Node → Except DocumentError (List Node)
  | [] => .ok []
  | c :: cs => do
      let first ← settleBlocks c
      return first :: (← settleBlocksAll cs)

end

end Node

/-! ## The whole -/

/-- The tree with all its constructs found, read and paired; positions are given in terms of the
source, if there is one. -/
def annotate (T : TagTables) (source : Option Text) (tree : Option Node) :
    Except DocumentError Node :=
  match tree with
  | none => .error .noDocument
  | some n => do
      let n ← segmentTree T (source.map .ofText) (some n)
      ((n.map (Label.read T)).pairTags T).settleBlocks

end LiquidMarkdown
