import LiquidMarkdown.Proofs.Annotation.Blocks
import LiquidMarkdown.Proofs.Document.Origin

/-!
# Literal blocks

Splitting keeps the body of a literal block as it is, but it sees one text at a time, while tags are
paired across the whole document.  So the body is kept where splitting found the block, and is split
like any other text where it did not.  This file defines:

* `Node.Flanked.between_eq` — what stands between the tags of a block is its body;
* `Node.Framed.forall_literal` — the body of a literal block holds literal text and nothing else;
* `eq_of_paired_of_annotate` — an opening tag is paired with one closing tag at most;
* `literal_of_isBlock` — so it is between the tags of a literal block that splitting found;
* `exists_block_of_annotate` — which block splitting found, by the text of the opening tag;
* `annotate_literal` — between a tag that opens a literal block and the closing tag that it is
  paired with, there is literal text and nothing else, unless a text of the document leaves it open.
-/

namespace LiquidMarkdown
namespace Node

variable {T : TagTables} {m b : Node} {i : TagId} {opening closing : Tag} {inner : List Node}

/-! ## Bodies -/

/-- The number of a block is the number of its opening tag, and the tags of its body stand between
this and its closing tag. -/
theorem Flanked.tags_eq_of_numbered (h : b.Flanked opening closing inner)
    (hb : (i, b) ∈ m.numbered 0) (hblock : b.label.kind.isBlock = true) :
    (m.roster.tag i).toTag = opening ∧
      (m.roster.tag (i + (tagsAll inner).length + 1)).toTag = closing := by
  rcases exists_of_mem_numbered m 0 hb with ⟨pre, post, hsplit, hi⟩
  rw [Nat.zero_add] at hi
  subst hi
  have hrow : m.roster.map (·.toTag) = pre ++ opening :: (tagsAll inner ++ closing :: post) := by
    rw [map_toTag_roster, hsplit, (h.tags_eq hblock).1]
    simp
  exact Roster.tags_of_row hrow

/-- What stands between the tags of a block is its body. -/
theorem Flanked.between_eq (h : b.Flanked opening closing inner) (hb : (i, b) ∈ m.numbered 0)
    (hblock : b.label.kind.isBlock = true) :
    m.between i (i + (tagsAll inner).length + 1) = labelsAll inner := by
  rcases h with ⟨first, last, hchildren, hfirst, hlast⟩
  rcases Kind.exists_of_isBlock hblock with ⟨name, c, hkind⟩
  have hlabels : b.labels = b.label :: first :: (labelsAll inner ++ [last]) := by
    cases b with
    | branch l cs =>
        rw [children] at hchildren
        rw [hchildren, labels, label, labelsAll, labelsAll_append]
        rfl
    | stub l =>
        rw [children] at hchildren
        cases hchildren
  rcases exists_labels_of_mem_numbered m 0 hb with ⟨pre, post, hsplit, hi⟩
  have hrow : m.labels = (pre ++ [b.label]) ++ first :: (labelsAll inner ++ last :: post) := by
    rw [hsplit, hlabels]
    simp
  -- The node of the block stands before its opening tag, and is no tag itself.
  have hcount : tagsOf (pre ++ [b.label]) = tagsOf pre := by
    rw [tagsOf_append, tagsOf_cons, hkind]
    exact List.append_nil _
  have hbetween := between_of_split hrow hfirst hlast
  rw [hcount] at hbetween
  rw [hi, Nat.zero_add]
  exact hbetween

/-- The body of a literal block holds literal text and nothing else. -/
theorem Framed.forall_literal (h : b.Framed T opening closing inner)
    (hv : T.isVerbatim (Tag.scannedName opening.raw) = true) :
    ∀ l ∈ labelsAll inner, l.Literal := by
  rcases h.literal hv with rfl | ⟨l, rfl, hl⟩
  · exact fun _ hk => absurd hk List.not_mem_nil
  · exact List.forall_mem_singleton.2 hl

theorem tagsAll_eq_nil {ns : List Node} (h : ∀ l ∈ labelsAll ns, l.Literal) : tagsAll ns = [] := by
  apply List.filterMap_eq_nil_iff.2
  intro l hl
  rw [(h l hl).kind]
  rfl

end Node

/-! ## Pairs -/

section

variable {T : TagTables} {source : Option Text} {n m : Node} {i j k : TagId}

/-- Where the tags of an annotated document are in the order of their offsets, they were paired in
this order. -/
theorem exists_associated_of_ordered (hn : n.Plain) (h : annotate T source (some n) = .ok m)
    (ho : m.roster.Ordered) :
    (∀ t ∈ m.tags, t.ReadAlike T) ∧ ∃ r r₀ r' res,
      Pairing.Associated T r r₀ (List.range r.length) r' res ∧
      (∀ i ∈ List.range r.length, (r.tag i).Prepared T) ∧ m.tags = r'.map (·.toTag) := by
  rcases exists_segmentTree_of_annotate h with ⟨s, hs, hbare, _⟩
  -- Annotating moves no tag.
  have hordered : s.roster.Ordered :=
    ho.of_positions_eq (Node.positions_roster_of_map_bare hbare).symm
  exact exists_associated_of_annotate h hs (Node.found_of_segmentTree hn hs) hordered

/-- There an opening tag is paired with one closing tag at most. -/
theorem eq_of_paired_of_annotate (hn : n.Plain) (h : annotate T source (some n) = .ok m)
    (ho : m.roster.Ordered) (hs : (m.roster.tag i).isStart = true) (hj : m.roster.Paired i j)
    (hk : m.roster.Paired i k) (hje : (m.roster.tag j).isEnd = true)
    (hke : (m.roster.tag k).isEnd = true) : j = k := by
  rcases exists_associated_of_ordered hn h ho with ⟨_, r, r₀, r', res, hassociated, _, htags⟩
  have hroster : m.roster.map (·.toTag) = r'.map (·.toTag) := by
    rw [Node.map_toTag_roster, htags]
  have htag (x : TagId) : (m.roster.tag x).toTag = (r'.tag x).toTag := by
    rw [Roster.toTag_tag, Roster.toTag_tag, hroster]
  rw [htag] at hs hje hke
  rw [Roster.paired_congr hroster] at hj hk
  rw [hassociated.agree.isStart] at hs
  have hi : i ∈ List.range r.length := List.mem_range.2 (Roster.lt_length_of_isStart hs)
  exact hassociated.eq_of_paired hi hs hj hk hje hke

end

/-! ## Blocks that splitting found -/

section

variable {T : TagTables} {source : Option Text} {n m b : Node} {i : TagId}

/-- Where splitting found a literal block, its tags are paired, and between the opening tag and the
closing tag that it is paired with, there is literal text and nothing else. -/
theorem literal_of_isBlock (hn : n.Plain) (h : annotate T source (some n) = .ok m)
    (ho : m.roster.Ordered) (hb : (i, b) ∈ m.numbered 0) (hblock : b.label.kind.isBlock = true)
    (hv : T.isVerbatim (m.roster.tag i).name = true)
    (hname : (m.roster.tag i).name = Tag.scannedName (m.roster.tag i).raw) :
    m.PairedBlock i (i + 1) b ∧
      ∀ j, m.roster.Paired i j → (m.roster.tag j).isEnd = true →
        ∀ l ∈ m.between i j, l.Literal := by
  rcases exists_ok_of_bind h with ⟨s, _, hsettle⟩
  rcases exists_associated_of_ordered hn h ho with
    ⟨hread, r, r₀, r', res, hassociated, hprepared, htags⟩
  have hmem := Node.mem_nodes_of_mem_numbered hb
  rcases exists_framed_of_annotate hn h b hmem hblock with ⟨opening, closing, inner, hframed⟩
  rcases hframed.flanked.tags_eq_of_numbered hb hblock with ⟨hopening, hclosing⟩
  have hbetween := hframed.flanked.between_eq hb hblock
  rw [hopening] at hv hname
  have hliteral : ∀ l ∈ Node.labelsAll inner, l.Literal := by
    apply hframed.forall_literal
    rw [← hname]
    exact hv
  have hhas := hframed.hasTags hblock
    (fun t ht => hread t (Node.tags_subset_of_mem_nodes hmem ht)) hname
  -- Literal text holds no tag, so the two tags stand side by side and are paired with each other.
  have hnil := Node.tagsAll_eq_nil hliteral
  rw [hnil] at hhas
  rw [hnil, List.length_nil, Nat.add_zero] at hclosing hbetween
  have hpaired : m.PairedBlock i (i + 1) b :=
    (hhas.pairedBlock_iff hsettle hassociated hprepared htags hb hblock).2 .nil
  refine ⟨hpaired, ?_⟩
  intro j hj hend
  have hj' : j = i + 1 := by
    apply eq_of_paired_of_annotate hn h ho _ hj hpaired.paired hend
    · rw [hclosing]
      exact hhas.isEnd
    · rw [hopening]
      exact hhas.isStart
  rw [hj', hbetween]
  exact hliteral

/-- A tag that opens a literal block stands at the beginning of a block of the annotated tree,
unless a text of the document leaves it open. -/
theorem exists_block_of_annotate (hn : n.Plain) (h : annotate T source (some n) = .ok m)
    (hs : (m.roster.tag i).isStart = true)
    (hstart : T.isBlockStart (Tag.scannedName (m.roster.tag i).raw) = true)
    (hv : T.isVerbatim (Tag.scannedName (m.roster.tag i).raw) = true)
    (hclosed : ¬ n.LeavesOpen T (m.roster.tag i).raw) :
    ∃ b, (i, b) ∈ m.numbered 0 ∧ b.label.kind.isBlock = true := by
  rcases exists_segmentTree_of_annotate h with ⟨s, hsplit, hbare, _⟩
  -- The tags of the two trees are written alike, and their blocks have the same numbers.
  have htag : m.tags[i]? = some (m.roster.tag i).toTag := by
    have hi := Roster.lt_length_of_isStart hs
    rw [← Node.map_toTag_roster, List.getElem?_map, List.getElem?_eq_getElem hi,
      Roster.getElem_eq_tag hi, Option.map_some]
  have htags := congrArg (fun k : Node => k.tags[i]?) hbare
  simp only [Node.tags_map Label.tag?_bare, List.getElem?_map, htag, Option.map_some] at htags
  rcases Option.map_eq_some_iff.1 htags.symm with ⟨t, ht, heq⟩
  have hraw : t.raw = (m.roster.tag i).raw := by simpa using heq
  rw [← hraw] at hstart hv hclosed
  rcases Node.exists_block_of_segmentTree hn hsplit ht hstart hv hclosed with ⟨b, hb, hblock⟩
  rcases Node.exists_mem_numbered_of_map_eq Label.tag?_bare hbare.symm hb with ⟨b', hb', heq⟩
  refine ⟨b', hb', ?_⟩
  have hlabel := congrArg (fun k : Node => k.label.kind.isBlock) heq
  simpa only [Node.label_map, Label.bare, Kind.isBlock_bare, hblock] using hlabel

/-- Unless a text of the document leaves it open, a tag that opens a literal block is paired, and
between it and the closing tag that it is paired with, there is literal text and nothing else.  So
nothing in the body is read, paired or reported. -/
theorem annotate_literal (hn : n.Plain) (h : annotate T source (some n) = .ok m)
    (ho : m.roster.Ordered) (hs : (m.roster.tag i).isStart = true)
    (hv : T.isVerbatim (m.roster.tag i).name = true)
    (hname : (m.roster.tag i).name = Tag.scannedName (m.roster.tag i).raw)
    (hclosed : ¬ n.LeavesOpen T (m.roster.tag i).raw) :
    (∃ b, (i, b) ∈ m.numbered 0 ∧ m.PairedBlock i (i + 1) b) ∧
      ∀ j, m.roster.Paired i j → (m.roster.tag j).isEnd = true →
        ∀ l ∈ m.between i j, l.Literal := by
  rcases exists_associated_of_ordered hn h ho with ⟨hread, _⟩
  have hmem : (m.roster.tag i).toTag ∈ m.tags := by
    rw [← Node.map_toTag_roster]
    exact List.mem_map_of_mem (Roster.tag_mem (Roster.lt_length_of_isStart hs))
  have hstart := (hread _ hmem).isBlockStart_of_isStart hs
  rw [hname] at hstart
  have hv' := hv
  rw [hname] at hv'
  rcases exists_block_of_annotate hn h hs hstart hv' hclosed with ⟨b, hb, hblock⟩
  rcases literal_of_isBlock hn h ho hb hblock hv hname with ⟨hpaired, hliteral⟩
  exact ⟨⟨b, hb, hpaired⟩, hliteral⟩

end

/-- A literal block whose body looks like an expression. -/
def literalText : Text :=
  "{% raw %}\x7b\x7b x \x7d\x7d{% endraw %}"

/-- A document of this block. -/
def literalDocument : Node :=
  .branch { type := "root" } [.leaf { type := Label.textType, value := some literalText }]

theorem pieces_literalText : pieces .standard literalText =
    [.block "{% raw %}" "\x7b\x7b x \x7d\x7d" "{% endraw %}" true] := by
  decide +kernel

/-- The document leaves no tag open. -/
theorem not_leavesOpen_literalDocument (raw : Text) :
    ¬ literalDocument.LeavesOpen .standard raw := by
  have htext {t : Text} (ht : literalDocument.SplitText .standard t) : t = literalText := by
    induction ht with
    | label hl ht =>
        cases List.mem_singleton.1 hl
        cases ht
        rfl
    | body _ hp ih =>
        rw [ih, pieces_literalText] at hp
        cases List.mem_singleton.1 hp
  rintro ⟨t, ps, qs, ht, hp, _⟩
  rw [htext ht, pieces_literalText] at hp
  have hmem : Piece.tag raw ∈ ps ++ .tag raw :: qs :=
    List.mem_append_right _ List.mem_cons_self
  rw [← hp] at hmem
  cases List.mem_singleton.1 hmem

theorem annotate_literal_expression :
    literalDocument.Plain ∧ ∃ m, annotate .standard none (some literalDocument) = .ok m ∧
      m.roster.Ordered ∧ ∃ i, (m.roster.tag i).isStart = true ∧
        TagTables.standard.isVerbatim (m.roster.tag i).name = true ∧
        (m.roster.tag i).name = Tag.scannedName (m.roster.tag i).raw ∧
        ¬ literalDocument.LeavesOpen .standard (m.roster.tag i).raw ∧
        (∃ b, (i, b) ∈ m.numbered 0 ∧ m.PairedBlock i (i + 1) b) ∧
        ∀ j, m.roster.Paired i j → (m.roster.tag j).isEnd = true →
          ∀ l ∈ m.between i j, l.Literal := by
  have hplain : literalDocument.Plain :=
    Node.forall_labels_branch.2 ⟨rfl, List.forall_mem_singleton.2 rfl⟩
  -- The document is annotated once, and what is asked of the outcome is read off it.
  have hrun : ((annotate .standard none (some literalDocument)).toOption.any fun m =>
      decide (m.roster.Ordered) && (m.roster.tag 0).isStart &&
        TagTables.standard.isVerbatim (m.roster.tag 0).name &&
        decide ((m.roster.tag 0).name = Tag.scannedName (m.roster.tag 0).raw)) = true := by
    decide +kernel
  cases hm : annotate .standard none (some literalDocument) with
  | error f =>
      rw [hm] at hrun
      cases hrun
  | ok m =>
      rw [hm] at hrun
      simp only [Except.toOption, Option.any_some, Bool.and_eq_true, decide_eq_true_eq] at hrun
      rcases hrun with ⟨⟨⟨hordered, hstart⟩, hverbatim⟩, hname⟩
      have hclosed := not_leavesOpen_literalDocument (m.roster.tag 0).raw
      exact ⟨hplain, m, rfl, hordered, 0, hstart, hverbatim, hname, hclosed,
        annotate_literal hplain hm hordered hstart hverbatim hname hclosed⟩

end LiquidMarkdown
