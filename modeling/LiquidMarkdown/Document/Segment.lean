import LiquidMarkdown.Construct.Piece
import LiquidMarkdown.Document.Error
import LiquidMarkdown.Source.LineIndex

/-!
# Segments of a document

Every text of a document gives way to the nodes of its pieces; the bodies of the blocks among them
are texts of the document from then on.  This file defines:

* `Placement` — where a text stands in the source, as far as that is known;
* `Placement.nodes` — the nodes of the pieces of a text, each with its position;
* `splitText` — the nodes that a text falls into;
* `Node.openText?` — the text of a node that may hold constructs;
* `Node.segment` — a tree with all its texts split;
* `segmentTree` — the same for a tree that may be unfit;
* `splitCount`, `Node.splitCount` — the number of texts that give way.

A text that splits into itself stays as it is, with its children.  Splitting ends because the bodies
of blocks are shorter than the texts that held the blocks (`Node.unsplitBelow_le_of_mem`).
-/

namespace LiquidMarkdown

/-! ## Placing pieces -/

/-- Where a text stands in the source: the offset map of the text and the index of the source, as
far as they are known. -/
structure Placement where
  offsets : Option OffsetMap
  index : Option LineIndex

namespace Placement

/-- The position of a part of the text. -/
def position (p : Placement) (start stop : Nat) : Except DocumentError (Option Position) :=
  match p.offsets, p.index with
  | some m, some ix => match m.span? start stop with
      | some (a, b) => .ok (some (ix.position a b))
      | none => .error .emptyOffsetMap
  | _, _ => .ok none

/-- What a part of the text carries: the rest of an offset map that has several segments. -/
def dataAt (p : Placement) (start : Nat) : Except DocumentError Data :=
  match p.offsets with
  | some m =>
      if m.isContiguous then .ok []
      else match m.shift? start with
        | some rest => .ok [(Data.offsetsKey, .offsets rest)]
        | none => .error .emptyOffsetMap
  | none => .ok []

/-- The label of a part of the text that is plain text. -/
def textLabel (p : Placement) (start : Nat) (t : Text) : Except DocumentError Label := do
  let position ← p.position start (start + t.length)
  let data ← p.dataAt start
  return { type := Label.textType, value := some t, position := position, data := data }

/-- The label of a tag. -/
def tagLabel (p : Placement) (start : Nat) (raw : Text) : Except DocumentError Label := do
  return .tag raw (← p.position start (start + raw.length))

/-- The body of a block, unless it is empty; literal text is marked. -/
def bodyNodes (p : Placement) (start : Nat) (body : Text) (isVerbatim : Bool) :
    Except DocumentError (List Node) := do
  if body = [] then return []
  let l ← p.textLabel start body
  return [.leaf (if isVerbatim then
    { l with data := l.data.put Data.verbatimKey (.bool true) } else l)]

/-- The node of a piece that starts at a given place in the text. -/
def node (p : Placement) (start : Nat) : Piece → Except DocumentError Node
  | .text t => do return .leaf (← p.textLabel start t)
  | .expression raw => do
      return .leaf (.expression raw (← p.position start (start + raw.length)))
  | .tag raw => do return .leaf (← p.tagLabel start raw)
  | .block opening body closing isVerbatim => do
      let bodyStart := start + opening.length
      let first ← p.tagLabel start opening
      let inner ← p.bodyNodes bodyStart body isVerbatim
      let last ← p.tagLabel (bodyStart + body.length) closing
      let raw := opening ++ body ++ closing
      let l := Label.block raw (← p.position start (start + raw.length))
      return .branch l (.leaf first :: (inner ++ [.leaf last]))

/-- The nodes of pieces that follow each other, the first of which starts at a given place. -/
def nodes (p : Placement) (start : Nat) : List Piece → Except DocumentError (List Node)
  | [] => .ok []
  | q :: qs => do
      let n ← p.node start q
      return n :: (← p.nodes (start + q.source.length) qs)

/-- The place of a text that starts at an offset of the source or carries an offset map; the map
takes precedence. -/
def ofText (start : Option Int) (offsets : Option OffsetMap) (index : Option LineIndex) :
    Placement :=
  ⟨offsets.or (start.map .contiguous), index⟩

end Placement

/-- The nodes that a text falls into; an empty text stays one node. -/
def splitText (T : TagTables) (p : Placement) (t : Text) : Except DocumentError (List Node) :=
  if t = [] then do
    return [.leaf { type := Label.textType, value := some [], position := ← p.position 0 0 }]
  else p.nodes 0 (pieces T t)

/-! ## Splitting trees -/

/-- Do the nodes say the same as a text that stays as it is? -/
def isUnsplit (t : Text) : List Node → Bool
  | [n] => n.label.type = Label.textType && n.label.value = some t
  | _ => false

namespace Label

/-- The text of a label that may hold constructs: it is not empty and not marked as literal. -/
def openText? (l : Label) : Option Text :=
  if l.type = textType && !l.data.flag Data.verbatimKey then
    match l.value with
    | some (c :: cs) => some (c :: cs)
    | _ => none
  else none

/-- Where the text of a label stands in the source. -/
def placement (l : Label) (index : Option LineIndex) : Placement :=
  .ofText l.offset l.data.offsets? index

end Label

namespace Node

mutual

/-- A measure of the text that is still to be split. -/
def unsplitSize : Node → Nat
  | branch l cs => 2 * (l.openText?.getD []).length + unsplitSizeAll cs + 1
  | stub l => 2 * (l.openText?.getD []).length + 1

def unsplitSizeAll : List Node → Nat
  | [] => 0
  | c :: cs => unsplitSize c + unsplitSizeAll cs + 1

end

/-- A measure of the text that is still to be split below a node. -/
def unsplitBelow (n : Node) : Nat :=
  unsplitSizeAll n.children

theorem unsplitBelow_lt (n : Node) :
    2 * (n.label.openText?.getD []).length + n.unsplitBelow < n.unsplitSize := by
  cases n <;> simp only [unsplitBelow, children, label, unsplitSize, unsplitSizeAll] <;> omega

theorem unsplitSizeAll_append (as bs : List Node) :
    unsplitSizeAll (as ++ bs) = unsplitSizeAll as + unsplitSizeAll bs := by
  induction as with
  | nil => simp [unsplitSizeAll]
  | cons a as ih => simp only [List.cons_append, unsplitSizeAll, ih]; omega

/-- A tag holds no text to split. -/
theorem unsplitSize_of_tagLabel {p : Placement} {start : Nat} {raw : Text} {l : Label}
    (h : p.tagLabel start raw = .ok l) : (leaf l).unsplitSize = 1 := by
  obtain ⟨position, _, hl⟩ := exists_ok_of_bind h
  cases hl
  rfl

/-- The body of a block holds no more text to split than it is long. -/
theorem unsplitSizeAll_bodyNodes_le {p : Placement} {start : Nat} {body : Text}
    {isVerbatim : Bool} {ns : List Node} (h : p.bodyNodes start body isVerbatim = .ok ns) :
    unsplitSizeAll ns ≤ 2 * body.length + 2 := by
  have hopen (l : Label) (hl : l.value = some body) :
      (l.openText?.getD []).length ≤ body.length := by
    simp only [Label.openText?]
    split
    · rw [hl]
      cases body <;> simp
    · simp
  simp only [Placement.bodyNodes] at h
  split at h
  · cases h
    simp [unsplitSizeAll]
  · obtain ⟨l, hl, hn⟩ := exists_ok_of_bind h
    obtain ⟨position, _, hl⟩ := exists_ok_of_bind hl
    obtain ⟨data, _, hl⟩ := exists_ok_of_bind hl
    cases hl
    cases hn
    simp only [leaf, unsplitSizeAll, unsplitSize]
    split <;> exact Nat.add_le_add_right (Nat.mul_le_mul_left 2 (hopen _ rfl)) 2

/-- Below the node of a piece there is at most the body of a block. -/
theorem unsplitBelow_le_of_node {p : Placement} {start : Nat} {q : Piece} {n : Node}
    (h : p.node start q = .ok n) :
    n.unsplitBelow = 0 ∨ ∃ opening body closing isVerbatim,
      q = .block opening body closing isVerbatim ∧ n.unsplitBelow ≤ 2 * body.length + 6 := by
  cases q with
  | text t =>
      obtain ⟨l, _, hn⟩ := exists_ok_of_bind h
      cases hn
      exact .inl rfl
  | expression raw =>
      obtain ⟨position, _, hn⟩ := exists_ok_of_bind h
      cases hn
      exact .inl rfl
  | tag raw =>
      obtain ⟨l, _, hn⟩ := exists_ok_of_bind h
      cases hn
      exact .inl rfl
  | block opening body closing isVerbatim =>
      obtain ⟨first, hf, h⟩ := exists_ok_of_bind h
      obtain ⟨inner, hi, h⟩ := exists_ok_of_bind h
      obtain ⟨last, hl, h⟩ := exists_ok_of_bind h
      obtain ⟨position, _, hn⟩ := exists_ok_of_bind h
      cases hn
      refine .inr ⟨opening, body, closing, isVerbatim, rfl, ?_⟩
      have := unsplitSizeAll_bodyNodes_le hi
      simp only [unsplitBelow, children, unsplitSizeAll, unsplitSizeAll_append,
        unsplitSize_of_tagLabel hf, unsplitSize_of_tagLabel hl]
      omega

/-- The nodes of pieces are the nodes of each piece. -/
theorem exists_mem_of_nodes {p : Placement} {start : Nat} {qs : List Piece} {ns : List Node}
    (h : p.nodes start qs = .ok ns) {n : Node} (hn : n ∈ ns) :
    ∃ q ∈ qs, ∃ place, p.node place q = .ok n := by
  induction qs generalizing start ns with
  | nil =>
      cases h
      cases hn
  | cons q qs ih =>
      obtain ⟨m, hq, h⟩ := exists_ok_of_bind h
      obtain ⟨ms, hr, h⟩ := exists_ok_of_bind h
      cases h
      rcases List.mem_cons.1 hn with rfl | hn
      · exact ⟨q, List.mem_cons_self, start, hq⟩
      · obtain ⟨q', hq', place, hp⟩ := ih hr hn
        exact ⟨q', List.mem_cons_of_mem _ hq', place, hp⟩

/-- Splitting uses up text: what is still to be split in a body is less than its block held. -/
theorem unsplitBelow_le_of_mem {T : TagTables} {p : Placement} {t : Text} {ns : List Node}
    (h : splitText T p t = .ok ns) {n : Node} (hn : n ∈ ns) : n.unsplitBelow ≤ 2 * t.length := by
  simp only [splitText] at h
  split at h
  · obtain ⟨position, _, h⟩ := exists_ok_of_bind h
    cases h
    cases List.mem_singleton.1 hn
    exact Nat.zero_le _
  · obtain ⟨q, hq, place, hp⟩ := exists_mem_of_nodes h hn
    rcases unsplitBelow_le_of_node hp with h₀ | ⟨opening, body, closing, isVerbatim, rfl, hb⟩
    · omega
    · have := length_body_add_le hq
      omega

mutual

/-- The tree with the texts below its root split.  The nodes that take the place of a text are
visited in turn. -/
def segment (T : TagTables) (index : Option LineIndex) (n : Node) : Except DocumentError Node :=
  match n with
  | branch l cs => do return branch l (← segmentAll T index cs)
  | stub l => .ok (stub l)
termination_by 2 * n.unsplitBelow + 1
decreasing_by exact Nat.lt_succ_self _

/-- The nodes with their texts split, and the texts below them. -/
def segmentAll (T : TagTables) (index : Option LineIndex) (ns : List Node) :
    Except DocumentError (List Node) :=
  match ns with
  | [] => .ok []
  | c :: cs => match _ho : c.label.openText? with
      | none => do
          let first ← segment T index c
          return first :: (← segmentAll T index cs)
      | some t => match _hs : splitText T (c.label.placement index) t with
          | .error e => .error e
          | .ok split => do
              let first ← if isUnsplit t split then .ok [c]
                else split.attach.mapM fun ⟨n, _hn⟩ => segment T index n
              return first ++ (← segmentAll T index cs)
termination_by 2 * unsplitSizeAll ns
decreasing_by
  · have := c.unsplitBelow_lt
    simp only [unsplitSizeAll]
    omega
  · simp only [unsplitSizeAll]
    omega
  · simp only [unsplitSizeAll]
    omega
  · have hc := c.unsplitBelow_lt
    have hn := unsplitBelow_le_of_mem _hs _hn
    rw [_ho, Option.getD_some] at hc
    simp only [unsplitSizeAll]
    omega

end

end Node

/-- The tree with the texts below its root split, unless it is no tree with children. -/
def segmentTree (T : TagTables) (index : Option LineIndex) :
    Option Node → Except DocumentError Node
  | none => .error (.badRoot none)
  | some (.stub l) => .error (.badRoot (some l.kind))
  | some (.branch l cs) => (Node.branch l cs).segment T index

/-! ## Counting -/

/-- Does a text stay as it is? -/
def staysText (T : TagTables) (t : Text) : Bool :=
  pieces T t == [.text t]

/-- The bodies of the blocks among the pieces of a text that may hold constructs. -/
def openBodies (ps : List Piece) : List Text :=
  ps.filterMap fun
    | .block _ body _ false => some body
    | _ => none

theorem length_lt_of_mem_openBodies {T : TagTables} {t body : Text}
    (h : body ∈ openBodies (pieces T t)) : body.length < t.length := by
  simp only [openBodies, List.mem_filterMap] at h
  obtain ⟨p, hp, hb⟩ := h
  split at hb
  · cases hb
    exact Nat.lt_of_lt_of_le (Nat.lt_add_of_pos_right (by decide)) (length_body_add_le hp)
  · simp at hb

/-- The number of texts that give way when a text is split with all its bodies. -/
def splitCount (T : TagTables) (t : Text) : Nat :=
  if t = [] || staysText T t then 0
  else 1 + ((openBodies (pieces T t)).attach.map fun ⟨body, _h⟩ =>
    splitCount T body).foldr (· + ·) 0
termination_by t.length
decreasing_by exact length_lt_of_mem_openBodies _h

namespace Node

mutual

/-- The number of texts below the root that give way. -/
def splitCount (T : TagTables) : Node → Nat
  | branch _ cs => splitCountAll T cs
  | stub _ => 0

def splitCountAll (T : TagTables) : List Node → Nat
  | [] => 0
  | c :: cs =>
      (match c.label.openText? with
        | some t => LiquidMarkdown.splitCount T t
        | none => splitCount T c) + splitCountAll T cs

end

end Node
end LiquidMarkdown
