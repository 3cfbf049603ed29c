import LiquidMarkdown.Document.Construct
import LiquidMarkdown.Document.Datum
import LiquidMarkdown.Source.Position

/-!
# Document trees

A document is an ordered tree of nodes, some of which are Liquid constructs.  This file defines:

* `Kind` — a plain node, or a construct of one of three kinds;
* `Label` — what a node is, apart from its children;
* `Node` — a node with its children, or one that was given none;
* `Node.labels` — the labels in document order;
* `Node.leafText` — the text of the leaves, in order;
* `Node.map` — a tree with changed labels;
* `Node.tags`, `Node.withTags` — the tags in document order, and a tree with others in their place.
-/

namespace LiquidMarkdown

/-! ## Labels -/

/-- What kind of node a node is. -/
inductive Kind where
  | plain
  | expression (construct : Construct)
  | tag (tag : Tag)
  | block (name : Text) (construct : Construct)

namespace Kind

/-- What is known about the construct. -/
def construct? : Kind → Option Construct
  | plain => none
  | expression c => some c
  | tag t => some t.toConstruct
  | block _ c => some c

/-- The tag. -/
def tag? : Kind → Option Tag
  | tag t => some t
  | _ => none

/-- Is the node a construct? -/
def isLiquid (k : Kind) : Bool :=
  k.construct?.isSome

end Kind

/-- What a node is, apart from its children. -/
structure Label where
  type : Text
  value : Option Text := none
  position : Option Position := none
  data : Data := []
  kind : Kind := .plain

namespace Label

/-- The type of plain text. -/
def textType : Text := "text"

/-- The type of printed expressions. -/
def expressionType : Text := "liquid_expression"

/-- The type of tags. -/
def tagType : Text := "liquid_tag"

/-- The type of blocks. -/
def blockType : Text := "liquid_block"

/-- The line on which the node starts. -/
def line (l : Label) : Option Int :=
  l.position.map (·.start.line)

/-- The column in which the node starts. -/
def column (l : Label) : Option Int :=
  l.position.map (·.start.column)

/-- The offset at which the node starts. -/
def offset (l : Label) : Option Int :=
  l.position.map (·.start.offset)

/-- A printed expression that was not read yet. -/
def expression (raw : Text) (position : Option Position) : Label :=
  { type := expressionType, value := some raw, position := position
    kind := .expression { raw := raw } }

/-- A tag that was not read yet. -/
def tag (raw : Text) (position : Option Position) : Label :=
  { type := tagType, value := some raw, position := position, kind := .tag { raw := raw } }

/-- A block that was not read yet. -/
def block (raw : Text) (position : Option Position) : Label :=
  { type := blockType, value := some raw, position := position
    kind := .block Tag.unknownName { raw := raw } }

end Label

/-! ## Trees -/

/-- A node of a document. -/
inductive Node where
  | branch (label : Label) (children : List Node)
  /-- A node without a list of children. -/
  | stub (label : Label)

namespace Node

instance : Inhabited Node := ⟨stub { type := Label.textType }⟩

/-- A node without children. -/
def leaf (l : Label) : Node :=
  branch l []

def label : Node → Label
  | branch l _ => l
  | stub l => l

def children : Node → List Node
  | branch _ cs => cs
  | stub _ => []

mutual

/-- The labels of a tree in document order. -/
def labels : Node → List Label
  | branch l cs => l :: labelsAll cs
  | stub l => [l]

def labelsAll : List Node → List Label
  | [] => []
  | c :: cs => labels c ++ labelsAll cs

end

mutual

/-- The nodes of a tree in document order. -/
def nodes : Node → List Node
  | branch l cs => branch l cs :: nodesAll cs
  | stub l => [stub l]

def nodesAll : List Node → List Node
  | [] => []
  | c :: cs => nodes c ++ nodesAll cs

end

mutual

/-- The text of the leaves, one after another.  A node with children counts by its children. -/
def leafText : Node → Text
  | branch l cs => if cs.isEmpty then l.value.getD [] else leafTextAll cs
  | stub l => l.value.getD []

def leafTextAll : List Node → Text
  | [] => []
  | c :: cs => leafText c ++ leafTextAll cs

end

mutual

/-- The tree with a function applied to every label. -/
def map (f : Label → Label) : Node → Node
  | branch l cs => branch (f l) (mapAll f cs)
  | stub l => stub (f l)

def mapAll (f : Label → Label) : List Node → List Node
  | [] => []
  | c :: cs => map f c :: mapAll f cs

end

/-! ## Tags -/

/-- The labels that are tags, with their tags. -/
def tagLabels (n : Node) : List (Label × Tag) :=
  n.labels.filterMap fun l => l.kind.tag?.map fun t => (l, t)

/-- The tags of a tree in document order. -/
def tags (n : Node) : List Tag :=
  n.tagLabels.map (·.2)

/-- The label with the first of the tags in the place of its own, if it is a tag, and the tags that
are left over. -/
def replaceTag (ts : List Tag) (l : Label) : Label × List Tag :=
  match l.kind, ts with
  | .tag _, t :: ts => ({ l with kind := .tag t }, ts)
  | _, ts => (l, ts)

mutual

/-- The tree with the given tags in the place of its own, in document order, and the tags that are
left over. -/
def withTags (ts : List Tag) : Node → Node × List Tag
  | branch l cs =>
      let (l, ts) := replaceTag ts l
      let (cs, ts) := withTagsAll ts cs
      (branch l cs, ts)
  | stub l =>
      let (l, ts) := replaceTag ts l
      (stub l, ts)

def withTagsAll (ts : List Tag) : List Node → List Node × List Tag
  | [] => ([], ts)
  | c :: cs =>
      let (c, ts) := withTags ts c
      let (cs, ts) := withTagsAll ts cs
      (c :: cs, ts)

end
end Node
end LiquidMarkdown
