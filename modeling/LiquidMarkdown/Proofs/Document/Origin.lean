import LiquidMarkdown.Proofs.Document.Blocks
import LiquidMarkdown.Proofs.Document.Numbering

/-!
# Where the tags of a split document come from

A tag of a split document was a piece of a text, or stands at one end of a block.  This file
defines:

* `Node.SplitText` — the texts of a document that splitting comes to;
* `Node.LeavesOpen` — a text of the document has a tag for a piece of its own, and no tag behind it
  that closes it;
* `Node.Origin` — where a tag of some split nodes comes from, `Node.origin_segmentAll`;
* `Node.exists_block_of_segmentTree` — a tag that opens a literal block stands at the beginning of a
  block, unless a text of the document leaves it open.
-/

namespace LiquidMarkdown
namespace Node

variable {T : TagTables} {index : Option LineIndex} {p : Placement} {start : Nat}

/-! ## Texts -/

/-- Splitting comes to the texts below the root of a document that may hold constructs, and to the
bodies of the blocks among their pieces, save for literal text. -/
inductive SplitText (T : TagTables) (n : Node) : Text → Prop where
  | label {l : Label} {t : Text} (hl : l ∈ labelsAll n.children) (ht : l.openText? = some t) :
      SplitText T n t
  | body {t opening body closing : Text} (ht : SplitText T n t)
      (hp : .block opening body closing false ∈ pieces T t) : SplitText T n body

/-- A text of the document has the tag for a piece of its own, and no tag behind it closes the block
that it opens. -/
def LeavesOpen (T : TagTables) (n : Node) (raw : Text) : Prop :=
  ∃ t ps qs, n.SplitText T t ∧ pieces T t = ps ++ .tag raw :: qs ∧
    Tag.endOf (Tag.scannedName raw) ∉ tagNames (qs.flatMap Piece.source)

/-! ## Origins -/

/-- Where a tag with the number `k` comes from, if it is among the nodes `ms` that the nodes `ns`,
the first of which has the number `i`, are split into.  The texts that are split satisfy `D`. -/
inductive Origin (T : TagTables) (D : Text → Prop) (ns : List Node) (ms : List (TagId × Node))
    (i k : TagId) (t : Tag) : Prop where
  /-- It was a piece of its own. -/
  | alone {u : Text} {ps qs : List Piece} (hu : D u) (hp : pieces T u = ps ++ .tag t.raw :: qs)
  /-- It stands at the end of a block. -/
  | closes {X : Text} (hX : T.isBlockStart X = true) (ht : Tag.scannedName t.raw = Tag.endOf X)
  /-- It stands at the beginning of a block. -/
  | opens {b : Node} (hb : (k, b) ∈ ms) (hblock : b.label.kind.isBlock = true)
  /-- It was there before. -/
  | given (as : List Node) {bs : List Node} {c : Node} (hns : ns = as ++ c :: bs)
      (hc : c.label.kind = .tag t) (hk : as = [] → k = i)

variable {D : Text → Prop} {ns : List Node} {ms ms' : List (TagId × Node)} {i i' k : TagId}
  {t : Tag}

/-- A tag behind the first node has the origin that it has among the nodes behind the first one. -/
theorem Origin.behind (h : Origin T D ns ms i k t) (hms : ms ⊆ ms') (c : Node) :
    Origin T D (c :: ns) ms' i' k t := by
  cases h with
  | alone hu hp => exact .alone hu hp
  | closes hX ht => exact .closes hX ht
  | opens hb hblock => exact .opens (hms hb) hblock
  | given as hns hd hk =>
      have hsplit : c :: ns = (c :: as) ++ _ := congrArg (c :: ·) hns
      exact .given (c :: as) hsplit hd nofun

/-- A tag that was not there before has the same origin among all nodes around. -/
theorem Origin.within {ns' : List Node} (h : Origin T D ns ms i k t) (hms : ms ⊆ ms')
    (hns : ∀ c ∈ ns, c.label.kind ≠ .tag t) : Origin T D ns' ms' i' k t := by
  cases h with
  | alone hu hp => exact .alone hu hp
  | closes hX ht => exact .closes hX ht
  | opens hb hblock => exact .opens (hms hb) hblock
  | given as hsplit hc hk =>
      rw [hsplit] at hns
      exact absurd hc (hns _ (List.mem_append_right _ List.mem_cons_self))

/-- The nodes are texts that satisfy `D`, or hold no text, and there are no constructs below them.
-/
structure Fresh (D : Text → Prop) (ns : List Node) : Prop where
  text : ∀ l ∈ labelsAll ns, ∀ t, l.openText? = some t → D t
  below : ∀ c ∈ ns, ∀ l ∈ labelsAll c.children, l.kind = .plain

theorem Fresh.tail {c : Node} (h : Fresh D (c :: ns)) : Fresh D ns where
  text := (forall_labelsAll_cons.1 h.text).2
  below := (List.forall_mem_cons.1 h.below).2

theorem Fresh.children {l : Label} {cs : List Node} (h : Fresh D (.branch l cs :: ns)) :
    Fresh D cs where
  text := (forall_labels_branch.1 (forall_labelsAll_cons.1 h.text).1).2
  below _ hc k hk := (List.forall_mem_cons.1 h.below).1 k (labelsAll_children_subset hc hk)

/-- A construct among the nodes below a fresh node would be one of the node itself. -/
theorem Fresh.eq_of_mem_numbered {c b : Node} (h : Fresh D (c :: ns))
    (hb : (k, b) ∈ c.numbered i) (ht : b.label.kind = .tag t) : k = i ∧ b = c := by
  cases c with
  | stub l =>
      cases List.mem_singleton.1 hb
      exact ⟨rfl, rfl⟩
  | branch l cs =>
      rcases mem_numbered_branch.1 hb with hb | hb
      · cases hb
        exact ⟨rfl, rfl⟩
      · rcases exists_of_mem_numberedAll hb with ⟨d, hd, j, hb, _⟩
        have hmem := mem_labelsAll.2 ⟨d, hd, label_mem_labels (mem_nodes_of_mem_numbered hb)⟩
        have hplain := (List.forall_mem_cons.1 h.below).1 _ hmem
        rw [ht] at hplain
        cases hplain

theorem fresh_nil : Fresh D [] where
  text _ h := absurd h List.not_mem_nil
  below _ h := absurd h List.not_mem_nil

theorem fresh_leaf {l : Label} (h : ∀ u, l.openText? = some u → D u) : Fresh D [leaf l] where
  text := List.forall_mem_singleton.2 h
  below := List.forall_mem_singleton.2 fun _ h => absurd h List.not_mem_nil

theorem Fresh.append {as bs : List Node} (ha : Fresh D as) (hb : Fresh D bs) :
    Fresh D (as ++ bs) where
  text := forall_labelsAll_append.2 ⟨ha.text, hb.text⟩
  below := List.forall_mem_append.2 ⟨ha.below, hb.below⟩

/-- The body of a block is fresh before it is split, and is no tag. -/
theorem fresh_of_bodyNodes {body : Text} {isVerbatim : Bool} {inner : List Node}
    (h : p.bodyNodes start body isVerbatim = .ok inner) (hbody : isVerbatim = false → D body) :
    Fresh D inner ∧ ∀ c ∈ inner, c.label.kind = .plain := by
  rcases Placement.exists_of_bodyNodes h with ⟨_, rfl⟩ | ⟨hne, l, hl, rfl⟩
  · exact ⟨fresh_nil, fun _ h => absurd h List.not_mem_nil⟩
  · rcases Label.openText?_of_textLabel hl hne with ⟨ho, hkind⟩
    cases isVerbatim with
    | true =>
        refine ⟨fresh_leaf fun u hu => ?_, List.forall_mem_singleton.2 hkind⟩
        have hput := l.openText?_put_verbatim
        rw [if_pos rfl, hput] at hu
        cases hu
    | false =>
        refine ⟨fresh_leaf fun u hu => ?_, List.forall_mem_singleton.2 hkind⟩
        rw [if_neg Bool.false_ne_true, ho] at hu
        cases hu
        exact hbody rfl

/-- The tags below the node of a block come from its body, or stand at one of its ends. -/
theorem origin_of_block {u opening body closing : Text} {isVerbatim : Bool} {l : Label}
    {ds ds' : List Node} (hmem : .block opening body closing isVerbatim ∈ pieces T u)
    (hbody : isVerbatim = false → D body)
    (hq : p.node start (.block opening body closing isVerbatim) = .ok (branch l ds))
    (hbelow : Fresh D ds → Origin T D ds (numberedAll i ds') i k t)
    (hms : (branch l ds').numbered i ⊆ ms) : Origin T D ns ms i' k t := by
  rcases exists_delimited_of_mem_pieces hmem with ⟨content, content', hd⟩
  rcases Placement.exists_of_node_block hq with
    ⟨_, firstPosition, inner, lastPosition, _, _, hi, _, heq⟩
  cases heq
  rcases fresh_of_bodyNodes hi hbody with ⟨hinner, hplain⟩
  have htag (raw : Text) (position : Option Position) : Fresh D [leaf (.tag raw position)] :=
    fresh_leaf fun v hv => by
      rw [Label.openText?_tag] at hv
      cases hv
  have hsub : numberedAll i ds' ⊆ ms := fun e he => hms (mem_numbered_branch.2 (.inr he))
  cases hbelow ((htag opening _).append (hinner.append (htag closing _))) with
  | alone hu hp => exact .alone hu hp
  | closes hX ht => exact .closes hX ht
  | opens hb hblock => exact .opens (hsub hb) hblock
  | @given as _ c hns hc hk =>
      cases as with
      | nil =>
          -- The opening tag has the number of the block.
          rw [hk rfl]
          exact .opens (hms (mem_numbered_branch.2 (.inl rfl))) rfl
      | cons a as =>
          have hc' : c ∈ inner ++ [leaf (.tag closing lastPosition)] := by
            rw [(List.cons.inj hns).2]
            exact List.mem_append_right _ List.mem_cons_self
          rcases List.mem_append.1 hc' with hc' | hc'
          · rw [hplain c hc'] at hc
            cases hc
          · rw [List.mem_singleton.1 hc'] at hc
            cases hc
            refine .closes hd.isBlockStart ?_
            rw [hd.closing_eq, Tag.scannedName_wrap]
            exact hd.nameOf_closing

/-- The tags of the node of a piece, with its children split, come from the piece. -/
theorem origin_of_node {u : Text} {q : Piece} {l : Label} {ds ds' : List Node} (hu : D u)
    (hmem : q ∈ pieces T u)
    (hbody : ∀ opening body closing, q = .block opening body closing false → D body)
    (hq : p.node start q = .ok (branch l ds)) (hds : segmentAll T index ds = .ok ds')
    (hbelow : Fresh D ds → ∀ i k b t, (k, b) ∈ numberedAll i ds' → b.label.kind = .tag t →
      Origin T D ds (numberedAll i ds') i k t)
    {b : Node} (hb : (k, b) ∈ (branch l ds').numbered i) (ht : b.label.kind = .tag t)
    (hms : (branch l ds').numbered i ⊆ ms) : Origin T D ns ms i' k t := by
  -- Only the node of a block has children.
  have hleaf (hnil : ds = []) : b.label = l := by
    rw [hnil, segmentAll_nil] at hds
    cases hds
    cases List.mem_singleton.1 hb
    rfl
  cases q with
  | text v =>
      rcases Placement.exists_of_node_text hq with ⟨k, hk, heq⟩
      cases heq
      rcases Placement.exists_of_textLabel hk with ⟨_, _, _, _, rfl⟩
      rw [hleaf rfl] at ht
      cases ht
  | expression raw =>
      rcases Placement.exists_of_node_expression hq with ⟨_, _, heq⟩
      cases heq
      rw [hleaf rfl] at ht
      cases ht
  | tag raw =>
      rcases Placement.exists_of_node_tag hq with ⟨_, _, heq⟩
      cases heq
      rw [hleaf rfl] at ht
      cases ht
      rcases List.append_of_mem hmem with ⟨ps, qs, hsplit⟩
      exact .alone hu hsplit
  | block opening body closing isVerbatim =>
      have hbody' (hv : isVerbatim = false) : D body := hbody opening body closing (by rw [hv])
      rcases mem_numbered_branch.1 hb with hb | hb
      · cases hb
        rcases Placement.exists_of_node_block hq with ⟨_, _, _, _, _, _, _, _, heq⟩
        cases heq
        cases ht
      · have hnone : l.kind.tag?.toList.length = 0 := by
          rcases Placement.exists_of_node_block hq with ⟨_, _, _, _, _, _, _, _, heq⟩
          cases heq
          rfl
        rw [hnone, Nat.add_zero] at hb
        exact origin_of_block hmem hbody' hq (fun hfresh => hbelow hfresh i k b t hb ht) hms

/-- Every tag of some split nodes has an origin. -/
theorem origin_segmentAll (hD : ∀ {u opening body closing : Text}, D u →
      .block opening body closing false ∈ pieces T u → D body)
    {ns ns' : List Node} (h : segmentAll T index ns = .ok ns') :
    Fresh D ns → ∀ i k b t, (k, b) ∈ numberedAll i ns' → b.label.kind = .tag t →
      Origin T D ns (numberedAll i ns') i k t := by
  refine segmentAll_induction (P := fun ns ns' => Fresh D ns → ∀ i k b t,
    (k, b) ∈ numberedAll i ns' → b.label.kind = .tag t →
      Origin T D ns (numberedAll i ns') i k t) ?nil ?branch ?stub ?kept ?replaced h
  case nil =>
    intro _ i k b t hb
    cases hb
  case branch =>
    -- No child of a node that stays is a tag, so each tag below it was found in a text.
    intro l cs cs' ns ns' _ ihBelow ihRest hns i k b t hb ht
    rcases mem_numberedAll_cons.1 hb with hb | hb
    · rcases mem_numbered_branch.1 hb with hb | hb
      · cases hb
        exact .given [] rfl ht fun _ => rfl
      · refine (ihBelow hns.children _ k b t hb ht).within ?_ ?_
        · exact fun e he => mem_numberedAll_cons.2 (.inl (List.mem_cons_of_mem _ he))
        · intro c hc hkind
          have hmem := mem_labelsAll.2 ⟨c, hc, label_mem_labels_self c⟩
          have hplain := (List.forall_mem_cons.1 hns.below).1 _ hmem
          rw [hkind] at hplain
          cases hplain
    · exact (ihRest hns.tail _ k b t hb ht).behind (numberedAll_subset_cons _ _ _) _
  case stub =>
    intro l ns ns' _ ihRest hns i k b t hb ht
    rcases mem_numberedAll_cons.1 hb with hb | hb
    · cases List.mem_singleton.1 hb
      exact .given [] rfl ht fun _ => rfl
    · exact (ihRest hns.tail _ k b t hb ht).behind (numberedAll_subset_cons _ _ _) _
  case kept =>
    intro c t split ns ns' _ _ _ ihRest hns i k b t hb ht
    rcases mem_numberedAll_cons.1 hb with hb | hb
    · rcases hns.eq_of_mem_numbered hb ht with ⟨rfl, rfl⟩
      exact .given [] rfl ht fun _ => rfl
    · exact (ihRest hns.tail _ k b t hb ht).behind (numberedAll_subset_cons _ _ _) _
  case replaced =>
    -- The nodes of a text come from its pieces, and the text is one of those that `D` holds of.
    intro c u split new ns ns' ho hs _ hnew ihRest hns i k b t hb ht
    rw [numberedAll_append] at hb ⊢
    rcases List.mem_append.1 hb with hb | hb
    · rcases exists_of_mem_numberedAll hb with ⟨n', hn', j, hb, hsub⟩
      rcases exists_mem_of_forall₂ hnew hn' with ⟨n, hn, l, ds, ds', rfl, rfl, hds, ihBelow⟩
      rw [splitText, if_neg (Label.eq_of_openText? ho).2.2] at hs
      rcases exists_mem_of_nodes hs hn with ⟨q, hq, place, hplace⟩
      have hu : D u := hns.text _ (List.mem_append_left _ (label_mem_labels_self c)) u ho
      exact origin_of_node hu hq (fun opening body closing hblock => hD hu (hblock ▸ hq)) hplace hds
        ihBelow hb ht (fun e he => List.mem_append_left _ (hsub he))
    · exact (ihRest hns.tail _ k b t hb ht).behind (List.subset_append_right _ _) _

/-! ## Documents -/

/-- A tag that opens a literal block stands at the beginning of a block, unless a text of the
document leaves it open. -/
theorem exists_block_of_segmentTree {n s : Node} (hn : n.Plain)
    (h : segmentTree T index (some n) = .ok s) (ht : s.tags[i]? = some t)
    (hstart : T.isBlockStart (Tag.scannedName t.raw) = true)
    (hv : T.isVerbatim (Tag.scannedName t.raw) = true) (hclosed : ¬ n.LeavesOpen T t.raw) :
    ∃ b, (i, b) ∈ s.numbered 0 ∧ b.label.kind.isBlock = true := by
  rcases exists_segmentAll_of_segmentTree h with ⟨l, cs, cs', rfl, rfl, hcs⟩
  rcases forall_labels_branch.1 hn with ⟨hl, hplain⟩
  have hfresh : Fresh ((branch l cs).SplitText T) cs :=
    ⟨fun k hk u hu => .label hk hu, fun c hc k hk => hplain k (labelsAll_children_subset hc hk)⟩
  rcases exists_mem_numbered_of_tags _ 0 ht with ⟨c, hc, hkind⟩
  rw [Nat.zero_add] at hc
  rcases mem_numbered_branch.1 hc with hc | hc
  · -- The root is no tag.
    cases hc
    rw [label, hl] at hkind
    cases hkind
  · cases origin_segmentAll .body hcs hfresh _ i c t hc hkind with
    | @alone u ps qs hu hp =>
        exact absurd ⟨u, ps, qs, hu, hp, notMem_tagNames_of_tag hp hstart hv⟩ hclosed
    | closes hX hname =>
        rw [hname, T.isBlockStart_endOf] at hstart
        cases hstart
    | @opens b hb hblock => exact ⟨b, mem_numbered_branch.2 (.inr hb), hblock⟩
    | @given as _ d hsplit hd _ =>
        have hmem : d ∈ cs := by
          rw [hsplit]
          exact List.mem_append_right _ List.mem_cons_self
        rw [hplain _ (mem_labelsAll.2 ⟨d, hmem, label_mem_labels_self d⟩)] at hd
        cases hd

end Node
end LiquidMarkdown
