import LiquidMarkdown.Annotation.Annotate
import LiquidMarkdown.Text.Quoted

/-!
# The journal of an annotation

What is done while a document is annotated, step by step, for whoever wants to follow it.  This
file defines:

* `Journal.Level`, `Journal.Entry` — a line of a journal;
* `Journal.ofSplitting`, `Journal.ofReading`, `Journal.ofPairing` — the entries of the steps;
* `journal` — the entries of a whole annotation;
* `Journal.shown` — the lines from a level on.
-/

namespace LiquidMarkdown
namespace Journal

/-! ## Entries -/

/-- How much an entry goes into detail. -/
inductive Level where
  | info
  | debug
  deriving DecidableEq, Repr

/-- The word for a level. -/
def Level.name : Level → Text
  | info => "INFO"
  | debug => "DEBUG"

/-- A line of a journal. -/
structure Entry where
  level : Level
  text : Text
  deriving DecidableEq, Repr

/-- An entry with details. -/
def detail (t : Text) : Entry :=
  ⟨.debug, t⟩

/-! ## Splitting -/

/-- The entry about the construct at the end of a text that is never closed. -/
def ofUnclosed (T : TagTables) (t : Text) : List Entry :=
  (unclosed? T t).toList.map fun (isTag, place) =>
    let what : Text := if isTag then "tag" else "expression"
    detail (("Unterminated " : Text) ++ what ++ " at " ++ Text.ofNat place ++ ", kept as text")

/-- The entries about the body of a block and the bodies in it, the last of them first. -/
def ofBody (T : TagTables) (body : Text) : List Entry :=
  ofUnclosed T body ++
    ((openBodies (pieces T body)).attach.reverse.flatMap fun ⟨inner, _h⟩ => ofBody T inner)
termination_by body.length
decreasing_by exact length_lt_of_mem_openBodies _h

/-- The entries about the texts among the children of a node. -/
def ofChildTexts (T : TagTables) (ns : List Node) : List Entry :=
  (ns.filterMap (·.label.openText?)).flatMap (ofUnclosed T)

mutual

/-- The entries about the texts below a node: first those of its children, then what is below
them, the last child first. -/
def ofTexts (T : TagTables) : Node → List Entry
  | .branch _ cs => ofChildTexts T cs ++ ofTextsBelow T cs
  | .stub _ => []

/-- The entries about what is below some nodes, the last node first. -/
def ofTextsBelow (T : TagTables) : List Node → List Entry
  | [] => []
  | c :: cs =>
      ofTextsBelow T cs ++ match c.label.openText? with
        | some t => (openBodies (pieces T t)).reverse.flatMap (ofBody T)
        | none => ofTexts T c

end

/-- The entries about the splitting of a tree. -/
def ofSplitting (T : TagTables) (n : Node) : List Entry :=
  ofTexts T n ++ [detail (("Split " : Text) ++ Text.ofNat (n.splitCount T) ++ " text node(s)")]

/-! ## Reading -/

/-- The entry about a construct that could not be read. -/
def ofFailure (what : Text) (c : Construct) : Option Entry :=
  match c.outcome with
  | .failed => some (detail (what ++ ' ' :: c.raw.quoted ++ " failed to parse: " ++
      c.error.getD []))
  | _ => none

/-- The printed expressions of a tree. -/
def expressionsOf (n : Node) : List Construct :=
  n.labels.filterMap fun l => match l.kind with
    | .expression c => some c
    | _ => none

/-- The blocks of a tree. -/
def blocksOf (n : Node) : List Construct :=
  n.labels.filterMap fun l => match l.kind with
    | .block _ c => some c
    | _ => none

/-- The entries about the constructs of a tree that could not be read by themselves. -/
def ofReading (n : Node) : List Entry :=
  (expressionsOf n).filterMap (ofFailure "Expression") ++
    (n.tags.filter fun t => !t.hasBlockRole).filterMap fun t => ofFailure "Tag" t.toConstruct

/-! ## Pairing -/

/-- The entry about a block type whose counts disagree. -/
def ofImbalance (b : Pairing.Imbalance) : Entry :=
  detail (("Block '" : Text) ++ b.blockType ++ "': " ++ Text.ofNat b.starts ++ " start(s), " ++
    Text.ofNat b.ends ++ " end(s)")

/-- The entries about a pairing and its check; there are none without tags. -/
def ofPairing (run : Pairing.Run) : List Entry :=
  if run.associated = [] then []
  else
    let result := run.result
    let cleared := run.associated.updateAll (List.range run.associated.length) Pairing.clearError
    detail (("Associated " : Text) ++ Text.ofNat result.closed.length ++ " block(s); " ++
        Text.ofNat result.unclosed.length ++ " unclosed, " ++ Text.ofNat result.orphans.length ++
        " orphaned tag(s)") ::
      (Pairing.imbalances cleared (List.range cleared.length)).map ofImbalance ++
      if run.added = [] then []
      else [⟨.info, ("Validation flagged " : Text) ++ Text.ofNat run.added.length ++
        " additional block problem(s)"⟩]

/-! ## The whole -/

/-- The entry that sums up an annotation. -/
def summary (n : Node) : Entry :=
  let expressions := expressionsOf n
  let tags := n.tags.map (·.toConstruct)
  let failures := (expressions ++ tags).countP fun c => c.outcome == .failed
  ⟨.info, ("Processed " : Text) ++ Text.ofNat expressions.length ++ " expression(s), " ++
    Text.ofNat tags.length ++ " tag(s), " ++ Text.ofNat (blocksOf n).length ++
    " block span(s); " ++ Text.ofNat failures ++ " with errors"⟩

/-- The lines of a journal: none of them, those without details, or all of them. -/
def shown (verbosity : Nat) (es : List Entry) : List Text :=
  let chosen : List Entry := match verbosity with
    | 0 => []
    | 1 => es.filter (·.level = .info)
    | _ => es
  chosen.map fun e => e.level.name ++ ": " ++ e.text

end Journal

/-- What is noted while a document is parsed and annotated. -/
def journal (T : TagTables) (source : Text) (tree : Node) :
    Except DocumentError (List Journal.Entry) := do
  let split ← segmentTree T (some (.ofText source)) (some tree)
  let read := split.map (Label.read T)
  return Journal.detail (("Parsed markdown into " : Text) ++ Text.ofNat tree.children.length ++
      " top-level block(s)") ::
    Journal.ofSplitting T tree ++ Journal.ofReading read ++
    Journal.ofPairing (Pairing.run T read.roster) ++ [Journal.summary (read.pairTags T)]

end LiquidMarkdown
