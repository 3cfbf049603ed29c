import LiquidMarkdown.Tag.Name

/-!
# Tag tables

What a tag does is a function of its name and of four tables.  This file defines:

* `TagTables` — the tables; no block tag begins with `end` or is a continuation tag;
* `TagTables.make?` — the tables from arbitrary names, or why they are refused;
* `TagTables.standard` — the tables of Liquid;
* `TagTables.withBlockTags?` — further block tags;
* `TagTables.isBlockStart`, `isBlockEnd`, `isContinuation`, `role`, `parent?`.
-/

namespace LiquidMarkdown

/-! ## The tables -/

/-- The names that the role of a tag is read from. -/
structure TagTables where
  /-- Tags that open a block and need a closing tag. -/
  blockTags : List Text
  /-- Tags that stand in an open block without opening or closing it. -/
  continuationTags : List Text
  /-- Block tags whose body is literal text. -/
  verbatimTags : List Text
  /-- The one block type that each continuation tag may join. -/
  continuationParents : List (Text × Text)
  not_end : ∀ t ∈ blockTags, Text.startsWith Tag.endPrefix t = false
  not_continuation : ∀ t ∈ blockTags, t ∉ continuationTags

namespace TagTables

/-- Why tables are refused. -/
inductive Error where
  /-- Block tags that look like closing tags. -/
  | endNames (names : List Text)
  /-- Names that are both block and continuation tags. -/
  | ambiguous (names : List Text)
  deriving DecidableEq, Repr

/-- The wording of a refusal. -/
def Error.message : Error → Text
  | .endNames names =>
      ("Block tag names may not start with 'end': " : Text) ++ Text.joinWith ", " names
  | .ambiguous names =>
      ("Tags cannot be both block and continuation tags: " : Text) ++ Text.joinWith ", " names

/-- Tables with the given names.  Block tags that begin with `end` are reported before names that
are block and continuation tags at once. -/
def make? (blockTags continuationTags verbatimTags : List Text)
    (continuationParents : List (Text × Text)) : Except Error TagTables :=
  if h₁ : ∀ t ∈ blockTags, Text.startsWith Tag.endPrefix t = false then
    if h₂ : ∀ t ∈ blockTags, t ∉ continuationTags then
      .ok ⟨blockTags, continuationTags, verbatimTags, continuationParents, h₁, h₂⟩
    else
      .error (.ambiguous (Text.sortedSet (blockTags.filter (· ∈ continuationTags))))
  else
    .error (.endNames (Text.sortedSet (blockTags.filter (Text.startsWith Tag.endPrefix))))

/-- The block tags of Liquid. -/
def standardBlockTags : List Text :=
  ["if", "unless", "for", "case", "capture", "tablerow", "raw", "comment", "block", "paginate",
    "schema", "style", "form", "javascript", "stylesheet"]

/-- The continuation tags of Liquid. -/
def standardContinuationTags : List Text :=
  ["else", "elsif", "elseif", "when", "empty"]

/-- The blocks of Liquid whose body is literal text. -/
def standardVerbatimTags : List Text :=
  ["raw", "comment"]

/-- The block type that each continuation tag of Liquid may join. -/
def standardContinuationParents : List (Text × Text) :=
  [("else", "if"), ("elsif", "if"), ("elseif", "if"), ("when", "case"), ("empty", "for")]

/-- The tables of Liquid. -/
def standard : TagTables where
  blockTags := standardBlockTags
  continuationTags := standardContinuationTags
  verbatimTags := standardVerbatimTags
  continuationParents := standardContinuationParents
  not_end := by decide
  not_continuation := by decide

instance : Inhabited TagTables := ⟨standard⟩

/-- The names among the given texts: trimmed, and without the empty ones. -/
def namesOf (extra : List Text) : List Text :=
  (extra.map Text.trim).filter (· ≠ [])

/-- The tables with further block tags; nothing to add leaves them as they are. -/
def withBlockTags? (T : TagTables) (extra : List Text) : Except Error TagTables :=
  match namesOf extra with
  | [] => .ok T
  | names => make? (T.blockTags ++ names) T.continuationTags T.verbatimTags T.continuationParents

/-! ## Roles -/

/-- What a tag does in the structure of a document. -/
inductive Role where
  | blockStart
  | blockEnd
  | continuation
  | standalone
  deriving DecidableEq, Repr

/-- Does the tag open a block? -/
def isBlockStart (T : TagTables) (name : Text) : Bool :=
  name ∈ T.blockTags

/-- Does the tag close a block? -/
def isBlockEnd (T : TagTables) (name : Text) : Bool :=
  match Text.dropPrefix? Tag.endPrefix name with
  | some rest => rest ∈ T.blockTags
  | none => false

/-- Does the tag continue a block? -/
def isContinuation (T : TagTables) (name : Text) : Bool :=
  name ∈ T.continuationTags

/-- Is the body of the block literal text? -/
def isVerbatim (T : TagTables) (name : Text) : Bool :=
  name ∈ T.verbatimTags

/-- The role of a tag: opening comes before closing, closing before continuing. -/
def role (T : TagTables) (name : Text) : Role :=
  if T.isBlockStart name then .blockStart
  else if T.isBlockEnd name then .blockEnd
  else if T.isContinuation name then .continuation
  else .standalone

/-- The one block type that a continuation tag may join. -/
def parent? (T : TagTables) (name : Text) : Option Text :=
  T.continuationParents.lookup name

end TagTables
end LiquidMarkdown
