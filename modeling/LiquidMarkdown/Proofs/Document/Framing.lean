import LiquidMarkdown.Proofs.Construct.Pieces
import LiquidMarkdown.Proofs.Document.Segmentation

/-!
# Blocks between their tags

The node of a block has its opening tag for its first child and its closing tag for its last one,
and splitting what stands between leaves both where they are.  This file defines:

* `Node.Flanked` — a node whose children are a tag, some nodes, and another tag;
* `Node.forall_blocks_segmentAll` — what holds of the blocks that are cut out of texts holds of all
  blocks of a split document;
* `Node.Tied`, `Node.Framed` — a block whose tags belong together, and whose body is kept if it is
  literal text;
* `Node.framed_segmentAll` — every block of a split document is of this form.
-/

namespace LiquidMarkdown

/-- Is the node a block? -/
def Kind.isBlock : Kind → Bool
  | block .. => true
  | _ => false

/-- Text that is kept as it is. -/
structure Label.Literal (l : Label) : Prop where
  type : l.type = Label.textType
  kind : l.kind = .plain
  flag : l.data.flag Data.verbatimKey = true

theorem Label.Literal.openText?_eq_none {l : Label} (h : l.Literal) : l.openText? = none := by
  simp [openText?, h.flag]

/-- The body of a literal block is kept as it is. -/
theorem Placement.literal_of_bodyNodes {p : Placement} {start : Nat} {body : Text} {ns : List Node}
    (h : p.bodyNodes start body true = .ok ns) : ns = [] ∨ ∃ l, ns = [.leaf l] ∧ l.Literal := by
  rcases exists_of_bodyNodes h with ⟨_, rfl⟩ | ⟨_, l, hl, rfl⟩
  · exact .inl rfl
  · rcases exists_of_textLabel hl with ⟨position, data, _, _, rfl⟩
    have hflag : (data.put Data.verbatimKey (.bool true)).flag Data.verbatimKey = true := by
      simp [Data.flag, Data.get?_put_self, Datum.isTrue]
    exact .inr ⟨_, rfl, rfl, rfl, hflag⟩

namespace Node

variable {T : TagTables} {index : Option LineIndex} {p : Placement} {start : Nat}

/-! ## Tags at both ends -/

/-- The children of the node are a tag, some nodes, and another tag. -/
def Flanked (b : Node) (opening closing : Tag) (inner : List Node) : Prop :=
  ∃ first last, b.children = leaf first :: (inner ++ [leaf last]) ∧
    first.kind = .tag opening ∧ last.kind = .tag closing

/-- Splitting leaves the tags around a body where they are. -/
theorem exists_of_segmentAll_block {first last : Label} {inner ds' : List Node}
    (hf : first.openText? = none) (hl : last.openText? = none)
    (h : segmentAll T index (leaf first :: (inner ++ [leaf last])) = .ok ds') :
    ∃ inner', segmentAll T index inner = .ok inner' ∧
      ds' = leaf first :: (inner' ++ [leaf last]) := by
  -- The two tags are nodes that splitting leaves, one before and one behind the body.
  have hcons : leaf first :: (inner ++ [leaf last]) = [leaf first] ++ (inner ++ [leaf last]) := rfl
  rw [hcons] at h
  rcases exists_of_segmentAll_append h with ⟨firsts, rest, hfirst, hrest, rfl⟩
  rcases exists_of_segmentAll_append hrest with ⟨inner', lasts, hinner, hlast, rfl⟩
  rw [segmentAll_leaf hf] at hfirst
  rw [segmentAll_leaf hl] at hlast
  cases hfirst
  cases hlast
  exact ⟨inner', hinner, rfl⟩

/-! ## All blocks -/

/-- Before it is split, the body of a block is one text, so that there is no block below the node of
a piece. -/
theorem isBlock_eq_false_of_node {q : Piece} {l : Label} {ds : List Node}
    (hq : p.node start q = .ok (branch l ds)) : ∀ k ∈ labelsAll ds, k.kind.isBlock = false := by
  cases q with
  | text u =>
      rcases Placement.exists_of_node_text hq with ⟨k, _, heq⟩
      cases heq
      exact fun _ hk => absurd hk List.not_mem_nil
  | expression raw =>
      rcases Placement.exists_of_node_expression hq with ⟨_, _, heq⟩
      cases heq
      exact fun _ hk => absurd hk List.not_mem_nil
  | tag raw =>
      rcases Placement.exists_of_node_tag hq with ⟨_, _, heq⟩
      cases heq
      exact fun _ hk => absurd hk List.not_mem_nil
  | block opening body closing isVerbatim =>
      rcases Placement.exists_of_node_block hq with ⟨_, _, inner, _, _, _, hi, _, heq⟩
      cases heq
      refine forall_labelsAll_cons.2 ⟨forall_labels_leaf.2 rfl, ?_⟩
      refine forall_labelsAll_append.2 ⟨?_, List.forall_mem_singleton.2 rfl⟩
      rcases Placement.exists_of_bodyNodes hi with ⟨_, rfl⟩ | ⟨_, lbody, hbody, rfl⟩
      · exact fun _ hk => absurd hk List.not_mem_nil
      · rcases Placement.exists_of_textLabel hbody with ⟨_, data, _, _, rfl⟩
        refine List.forall_mem_singleton.2 ?_
        cases isVerbatim with
        | true => rfl
        | false => rfl

/-- What holds of the blocks that are cut out of texts, with their children split, holds of all
blocks behind splitting, unless they were there before. -/
theorem forall_blocks_segmentAll {Q : Node → Prop}
    (hQ : ∀ {p : Placement} {start : Nat} {t opening body closing : Text} {isVerbatim : Bool}
      {l : Label} {ds ds' : List Node},
      .block opening body closing isVerbatim ∈ pieces T t →
      p.node start (.block opening body closing isVerbatim) = .ok (branch l ds) →
      segmentAll T index ds = .ok ds' → Q (branch l ds'))
    {ns ns' : List Node} (h : segmentAll T index ns = .ok ns') :
    (∀ l ∈ labelsAll ns, l.kind.isBlock = false) →
      ∀ b ∈ nodesAll ns', b.label.kind.isBlock = true → Q b := by
  refine segmentAll_induction (P := fun ns ns' =>
    (∀ l ∈ labelsAll ns, l.kind.isBlock = false) → ∀ b ∈ nodesAll ns',
      b.label.kind.isBlock = true → Q b) ?nil ?branch ?stub ?kept ?replaced h
  case nil =>
    intro _ b hb
    cases hb
  case branch =>
    intro l cs cs' ns ns' _ ihBelow ihRest hns b hb hblock
    rcases forall_labelsAll_cons.1 hns with ⟨hfirst, hrest⟩
    rcases forall_labels_branch.1 hfirst with ⟨hl, hcs⟩
    rcases List.mem_append.1 hb with hb | hb
    · rcases List.mem_cons.1 hb with rfl | hb
      · rw [label, hl] at hblock
        cases hblock
      · exact ihBelow hcs b hb hblock
    · exact ihRest hrest b hb hblock
  case stub =>
    intro l ns ns' _ ihRest hns b hb hblock
    rcases forall_labelsAll_cons.1 hns with ⟨hfirst, hrest⟩
    rcases List.mem_append.1 hb with hb | hb
    · rw [hfirst _ (label_mem_labels hb)] at hblock
      cases hblock
    · exact ihRest hrest b hb hblock
  case kept =>
    intro c t split ns ns' _ _ _ ihRest hns b hb hblock
    rcases forall_labelsAll_cons.1 hns with ⟨hfirst, hrest⟩
    rcases List.mem_append.1 hb with hb | hb
    · rw [hfirst _ (label_mem_labels hb)] at hblock
      cases hblock
    · exact ihRest hrest b hb hblock
  case replaced =>
    intro c t split new ns ns' ho hs _ hnew ihRest hns b hb hblock
    rcases forall_labelsAll_cons.1 hns with ⟨_, hrest⟩
    rw [nodesAll_append] at hb
    rcases List.mem_append.1 hb with hb | hb
    · -- A node that takes the place of the text is the node of a piece.
      rcases mem_nodesAll.1 hb with ⟨n', hn', hbn⟩
      rcases exists_mem_of_forall₂ hnew hn' with ⟨n, hn, l, ds, ds', rfl, rfl, hds, ihBelow⟩
      rw [splitText, if_neg (Label.eq_of_openText? ho).2.2] at hs
      rcases exists_mem_of_nodes hs hn with ⟨q, hq, place, hplace⟩
      rcases List.mem_cons.1 hbn with rfl | hbn
      · -- Only the piece of a block has a block for its node.
        cases q with
        | text u =>
            rcases Placement.exists_of_node_text hplace with ⟨k, hk, heq⟩
            cases heq
            rcases Placement.exists_of_textLabel hk with ⟨_, _, _, _, rfl⟩
            cases hblock
        | expression raw =>
            rcases Placement.exists_of_node_expression hplace with ⟨_, _, heq⟩
            cases heq
            cases hblock
        | tag raw =>
            rcases Placement.exists_of_node_tag hplace with ⟨_, _, heq⟩
            cases heq
            cases hblock
        | block opening body closing isVerbatim => exact hQ hq hplace hds
      · exact ihBelow (isBlock_eq_false_of_node hplace) b hbn hblock
    · exact ihRest hrest b hb hblock

/-! ## Tags that belong together -/

/-- The block runs from a tag that opens it to a tag that closes it. -/
structure Tied (T : TagTables) (b : Node) (opening closing : Tag) (inner : List Node) : Prop where
  flanked : b.Flanked opening closing inner
  opening_eq : ∃ content, opening.raw = Delimiters.tag.wrap content
  closing_eq : ∃ content, closing.raw = Delimiters.tag.wrap content
  isBlockStart : T.isBlockStart (Tag.scannedName opening.raw) = true
  scannedName_closing : Tag.scannedName closing.raw = Tag.endOf (Tag.scannedName opening.raw)

/-- The tags of the block are tied, and if its body is literal text, this is kept in one node. -/
structure Framed (T : TagTables) (b : Node) (opening closing : Tag) (inner : List Node) : Prop
    extends b.Tied T opening closing inner where
  literal : T.isVerbatim (Tag.scannedName opening.raw) = true →
    inner = [] ∨ ∃ l, inner = [leaf l] ∧ l.Literal

/-- The node of a block, with its children split, has its tags around it. -/
theorem exists_framed_of_node {t opening body closing : Text} {isVerbatim : Bool} {l : Label}
    {ds ds' : List Node} (hmem : .block opening body closing isVerbatim ∈ pieces T t)
    (hq : p.node start (.block opening body closing isVerbatim) = .ok (branch l ds))
    (hds : segmentAll T index ds = .ok ds') :
    ∃ first last inner, (branch l ds').Framed T first last inner := by
  rcases exists_delimited_of_mem_pieces hmem with ⟨content, content', hd⟩
  rcases Placement.exists_of_node_block hq with ⟨_, _, inner, _, _, _, hi, _, heq⟩
  cases heq
  rcases exists_of_segmentAll_block (Label.openText?_tag _ _) (Label.openText?_tag _ _) hds with
    ⟨inner', hsplit, rfl⟩
  have hopening : Tag.scannedName opening = Tag.nameOf content := by
    rw [hd.opening_eq, Tag.scannedName_wrap]
  have hclosing : Tag.scannedName closing = Tag.nameOf content' := by
    rw [hd.closing_eq, Tag.scannedName_wrap]
  refine ⟨{ raw := opening }, { raw := closing }, inner', ⟨⟨_, _, rfl, rfl, rfl⟩,
    ⟨content, hd.opening_eq⟩, ⟨content', hd.closing_eq⟩, ?_, ?_⟩, ?_⟩
  · rw [hopening]
    exact hd.isBlockStart
  · rw [hclosing, hopening]
    exact hd.nameOf_closing
  · intro hv
    rw [hopening, ← hd.isVerbatim_eq] at hv
    subst hv
    -- Literal text is not split again.
    rcases Placement.literal_of_bodyNodes hi with rfl | ⟨l, rfl, hl⟩
    · rw [segmentAll_nil] at hsplit
      cases hsplit
      exact .inl rfl
    · rw [segmentAll_leaf hl.openText?_eq_none] at hsplit
      cases hsplit
      exact .inr ⟨l, rfl, hl⟩

/-- Every block behind splitting has its tags around it, unless it was there before. -/
theorem framed_segmentAll {ns ns' : List Node} (h : segmentAll T index ns = .ok ns') :
    (∀ l ∈ labelsAll ns, l.kind.isBlock = false) → ∀ b ∈ nodesAll ns', b.label.kind.isBlock = true →
      ∃ opening closing inner, b.Framed T opening closing inner :=
  forall_blocks_segmentAll (fun hmem hq hds => exists_framed_of_node hmem hq hds) h

theorem framed_of_segmentTree {n s : Node} (hn : n.Plain)
    (h : segmentTree T index (some n) = .ok s) :
    ∀ b ∈ s.nodes, b.label.kind.isBlock = true → ∃ opening closing inner,
      b.Framed T opening closing inner := by
  rcases exists_segmentAll_of_segmentTree h with ⟨l, cs, cs', rfl, rfl, hcs⟩
  rcases forall_labels_branch.1 hn with ⟨hl, hbelow⟩
  intro b hb hblock
  rcases List.mem_cons.1 hb with rfl | hb
  · rw [label, hl] at hblock
    cases hblock
  · refine framed_segmentAll hcs (fun k hk => ?_) b hb hblock
    rw [hbelow k hk]
    rfl

end Node
end LiquidMarkdown
