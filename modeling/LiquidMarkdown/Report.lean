import LiquidMarkdown.Annotation.Annotate

/-!
# Reports

What an annotated document holds: its nodes by type, its constructs, its blocks and its problems.
This file defines:

* `Report.Finding` — a problem and where it is;
* `Report.Block` — a block with its tags, and `Report.blocksOf`, the blocks of a list of tags;
* `Report` — the whole, and `Report.ofTree`.
-/

namespace LiquidMarkdown

namespace Report

/-! ## Findings -/

/-- A construct that could not be read or paired. -/
structure Finding where
  nodeType : Text
  content : Text
  message : Text
  tagName : Option Text
  line : Option Int
  column : Option Int
  offset : Option Int
  deriving DecidableEq, Repr

/-- Line and column of a finding, or a question mark. -/
def Finding.location (f : Finding) : Text :=
  match f.line with
  | none => "?"
  | some line => Text.ofInt line ++ ':' :: Text.ofInt (f.column.getD 0)

/-- The error of a construct, unless it is empty. -/
def errorOf? (c : Construct) : Option Text :=
  c.error.filter (· ≠ [])

/-- The finding about a node: blocks have the problems of their tags and are left out. -/
def finding? (l : Label) : Option Finding :=
  let of (c : Construct) (tagName : Option Text) : Option Finding :=
    (errorOf? c).map fun message =>
      ⟨l.type, c.raw, message, tagName, l.line, l.column, l.offset⟩
  match l.kind with
  | .expression c => of c none
  | .tag t => of t.toConstruct (some t.name)
  | _ => none

/-! ## Blocks -/

/-- A block of a document. -/
structure Block where
  id : Text
  blockType : Text
  start : Text
  continuations : List Text
  stop : Option Text
  line : Option Int
  deriving DecidableEq, Repr

/-- Does the block have a closing tag? -/
def Block.isClosed (b : Block) : Bool :=
  b.stop.isSome

/-- The tags that carry one block id. -/
structure Group where
  id : Text
  start : Option PlacedTag := none
  continuations : List PlacedTag := []
  stop : Option PlacedTag := none

/-- The group with a tag more: opening comes before closing, closing before continuing. -/
def Group.add (g : Group) (t : PlacedTag) : Group :=
  if t.isStart then { g with start := some t }
  else if t.isEnd then { g with stop := some t }
  else if t.isContinuation then { g with continuations := g.continuations ++ [t] }
  else g

/-- The groups with a tag more; a new id opens a group at the end. -/
def addToGroups (gs : List Group) (t : PlacedTag) : List Group :=
  match t.blockId with
  | none => gs
  | some id =>
      if gs.any (·.id = id) then gs.map fun g => if g.id = id then g.add t else g
      else gs ++ [({ id := id } : Group).add t]

/-- The block of a group that has an opening tag. -/
def Group.block? (g : Group) : Option Block :=
  g.start.map fun s =>
    ⟨g.id, s.name, s.raw, g.continuations.map (·.raw), g.stop.map (·.raw), s.line?⟩

/-- The blocks of a list of paired tags, in the order of their first tags. -/
def blocksOf (ts : List PlacedTag) : List Block :=
  (ts.foldl addToGroups []).filterMap Group.block?

end Report

/-! ## The whole -/

/-- What a document holds. -/
structure Report where
  nodeTypes : List (Text × Nat)
  expressions : List Text
  tags : List Text
  blocks : List Report.Block
  findings : List Report.Finding

namespace Report

/-- The number of nodes. -/
def total (r : Report) : Nat :=
  (r.nodeTypes.map (·.2)).foldr (· + ·) 0

/-- Is there no problem? -/
def ok (r : Report) : Bool :=
  r.findings.isEmpty

/-- How often each text occurs, in the order of first occurrence. -/
def countEach (ts : List Text) : List (Text × Nat) :=
  ts.eraseDups.map fun t => (t, ts.count t)

/-- The text of a construct between its delimiters, or all of it if there is none. -/
def shown (c : Construct) : Text :=
  match c.inner with
  | some (x :: xs) => x :: xs
  | _ => c.raw

/-- The printed expression of a label. -/
def expression? (l : Label) : Option Construct :=
  match l.kind with
  | .expression c => some c
  | _ => none

/-- What a tree holds. -/
def ofTree (n : Node) : Report where
  nodeTypes := countEach (n.labels.map (·.type))
  expressions := (n.labels.filterMap expression?).map shown
  tags := n.tags.map fun t => shown t.toConstruct
  blocks := blocksOf n.roster
  findings := n.labels.filterMap finding?

end Report
end LiquidMarkdown
