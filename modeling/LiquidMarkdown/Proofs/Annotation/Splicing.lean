import LiquidMarkdown.Proofs.Annotation.Totality

/-!
# Texts give way to what spells them

Annotating a document replaces texts, each in its place, by nodes that spell the same text; all
other nodes stay where they are.  This file defines:

* `Node.TextsAreLeaves` — texts have no children;
* `Node.SpellsBlock` — the children of a block spell the block;
* `Node.Spliced` — nodes with texts replaced in place;
* `Node.Respelled`, `Node.respelled_segmentAll` — splitting replaces texts in place;
* `annotate_spliced` — so does annotating, and the text of the document stays the same.
-/

namespace LiquidMarkdown

namespace Label

theorem blockType_ne_textType : blockType ≠ textType := by
  decide

end Label

namespace Node

/-! ## Spelling -/

/-- Texts have no children. -/
def TextsAreLeaves (n : Node) : Prop :=
  ∀ c ∈ n.nodes, c.label.type = Label.textType → c.children = []

/-- If the node is a block, the text of its children is the text of the block. -/
def SpellsBlock (n : Node) : Prop :=
  ∀ name c, n.label.kind = .block name c → leafTextAll n.children = c.raw

theorem leafText_branch_eq {l : Label} {cs ds : List Node} (ht : leafTextAll ds = leafTextAll cs)
    (he : cs = [] ↔ ds = []) : (branch l ds).leafText = (branch l cs).leafText := by
  have hempty : ds.isEmpty = cs.isEmpty := by
    rw [Bool.eq_iff_iff, List.isEmpty_iff, List.isEmpty_iff, he]
  simp only [leafText, hempty, ht]

theorem leafText_eq_of_children {n : Node} (h : n.children = []) :
    n.leafText = n.label.value.getD [] := by
  cases n with
  | branch l cs =>
      simp only [children] at h
      simp [leafText, label, h]
  | stub l => rfl

theorem leafText_leaf (l : Label) : (leaf l).leafText = l.value.getD [] := rfl

theorem spellsBlock_map_bare {b : Node} :
    (b.map Label.bare).SpellsBlock ↔ b.SpellsBlock := by
  have htext := leafTextAll_mapAll (f := Label.bare) (fun _ => rfl) b.children
  unfold SpellsBlock
  rw [label_map, children_map, htext]
  constructor
  · intro h name c hk
    exact h Tag.unknownName { raw := c.raw } (by simp [Label.bare, Kind.bare, hk])
  · intro h name c hk
    cases hb : b.label.kind with
    | block name' c' =>
        simp only [Label.bare, Kind.bare, hb, Kind.block.injEq] at hk
        rw [h name' c' hb, ← hk.2]
    | plain | expression _ | tag _ => simp [Label.bare, Kind.bare, hb] at hk

/-! ## Splicing -/

/-- The nodes on the right are those on the left, where texts are replaced in place.  A node that is
no text stays what it is.  What takes the place of a text spells it, and so do the children of every
block in it; only the text itself, where it stays, may be a block that does not. -/
inductive Spliced : List Node → List Node → Prop where
  | nil : Spliced [] []
  | branch {l l' : Label} {cs cs' ns ns' : List Node} (hl : l.type ≠ Label.textType)
      (hbare : l'.bare = l.bare) (below : Spliced cs cs') (rest : Spliced ns ns') :
      Spliced (.branch l cs :: ns) (.branch l' cs' :: ns')
  | stub {l l' : Label} {ns ns' : List Node} (hl : l.type ≠ Label.textType)
      (hbare : l'.bare = l.bare) (rest : Spliced ns ns') :
      Spliced (.stub l :: ns) (.stub l' :: ns')
  | text {c : Node} {new ns ns' : List Node} (hc : c.label.type = Label.textType)
      (hne : new ≠ []) (htext : leafTextAll new = c.label.value.getD [])
      (hblocks : ∀ b ∈ nodesAll new, b.label.bare = c.label.bare ∨ b.SpellsBlock)
      (rest : Spliced ns ns') : Spliced (c :: ns) (new ++ ns')

/-- Nodes that differ in nothing but what is known about constructs are spliced alike. -/
theorem Spliced.of_mapAll_bare {ns ms : List Node} (h : Spliced ns ms) :
    ∀ {ms' : List Node}, mapAll Label.bare ms' = mapAll Label.bare ms → Spliced ns ms' := by
  induction h with
  | nil =>
      intro ms' he
      rw [mapAll_eq_map, mapAll, List.map_eq_nil_iff] at he
      subst he
      exact .nil
  | @branch l l' cs cs' ns ns' hl hbare _ _ ihBelow ihRest =>
      intro ms' he
      rw [mapAll_eq_map, mapAll, List.map_eq_cons_iff] at he
      rcases he with ⟨m, rest, rfl, hm, hr⟩
      cases m with
      | stub l'' => simp [map] at hm
      | branch l'' ds =>
          simp only [map, Node.branch.injEq] at hm
          rw [← mapAll_eq_map] at hr
          exact .branch hl (hm.1.trans hbare) (ihBelow hm.2) (ihRest hr)
  | @stub l l' ns ns' hl hbare _ ihRest =>
      intro ms' he
      rw [mapAll_eq_map, mapAll, List.map_eq_cons_iff] at he
      rcases he with ⟨m, rest, rfl, hm, hr⟩
      cases m with
      | branch l'' ds => simp [map] at hm
      | stub l'' =>
          simp only [map, Node.stub.injEq] at hm
          rw [← mapAll_eq_map] at hr
          exact .stub hl (hm.trans hbare) (ihRest hr)
  | @text c new ns ns' hc hne htext hblocks _ ihRest =>
      intro ms' he
      -- The list falls into what is written like the new nodes and what is written like the rest.
      rw [mapAll_eq_map, mapAll_eq_map, List.map_append, List.map_eq_append_iff] at he
      rcases he with ⟨new', rest, rfl, hn, hr⟩
      rw [← mapAll_eq_map, ← mapAll_eq_map] at hr hn
      refine .text hc ?_ ?_ ?_ (ihRest hr)
      · intro hnil
        rw [hnil, mapAll_eq_map, mapAll_eq_map] at hn
        exact hne (List.map_eq_nil_iff.1 hn.symm)
      · have hvalue (l : Label) : l.bare.value = l.value := rfl
        rw [← leafTextAll_mapAll hvalue new', hn, leafTextAll_mapAll hvalue, htext]
      · intro b' hb'
        have hmem : b'.map Label.bare ∈ (nodesAll new).map (map Label.bare) := by
          rw [← nodesAll_mapAll, ← hn, nodesAll_mapAll]
          exact List.mem_map_of_mem hb'
        rcases List.mem_map.1 hmem with ⟨b, hb, hbb⟩
        have hlabel : b.label.bare = b'.label.bare := by
          simpa only [label_map] using congrArg label hbb
        rcases hblocks b hb with h | h
        · exact .inl (hlabel.symm.trans h)
        · exact .inr (spellsBlock_map_bare.1 (hbb ▸ spellsBlock_map_bare.2 h))

/-! ## Splitting -/

/-- Texts are leaves, and every block is spelled by its children. -/
def WellSpelled (n : Node) : Prop :=
  n.TextsAreLeaves ∧ ∀ b ∈ n.nodes, b.SpellsBlock

theorem wellSpelled_leaf {l : Label} (hl : ∀ name c, l.kind ≠ .block name c) :
    (leaf l).WellSpelled := by
  constructor
  · intro c hc _
    rw [List.mem_singleton.1 hc]
    rfl
  · intro b hb name c hk
    rw [List.mem_singleton.1 hb] at hk
    exact absurd hk (hl name c)

theorem wellSpelled_tag (raw : Text) (position : Option Position) :
    (leaf (.tag raw position)).WellSpelled :=
  wellSpelled_leaf fun name c => by simp [Label.tag]

theorem wellSpelled_branch {l : Label} {cs : List Node} (hl : l.type ≠ Label.textType)
    (hb : (branch l cs).SpellsBlock) (hcs : ∀ c ∈ cs, c.WellSpelled) :
    (branch l cs).WellSpelled := by
  constructor
  · intro c hc hct
    rcases List.mem_cons.1 hc with rfl | hc
    · exact absurd hct hl
    · rcases mem_nodesAll.1 hc with ⟨n, hn, hcn⟩
      exact (hcs n hn).1 c hcn hct
  · intro b hbm
    rcases List.mem_cons.1 hbm with rfl | hbm
    · exact hb
    · rcases mem_nodesAll.1 hbm with ⟨n, hn, hbn⟩
      exact (hcs n hn).2 b hbn

/-- The body of a block is one text, or nothing at all. -/
theorem spells_of_bodyNodes {p : Placement} {start : Nat} {body : Text} {isVerbatim : Bool}
    {ns : List Node} (h : p.bodyNodes start body isVerbatim = .ok ns) :
    leafTextAll ns = body ∧ ∀ n ∈ ns, n.WellSpelled := by
  rcases Placement.exists_of_bodyNodes h with ⟨rfl, rfl⟩ | ⟨_, l, hl, rfl⟩
  · exact ⟨rfl, fun n hn => absurd hn List.not_mem_nil⟩
  · rcases Placement.exists_of_textLabel hl with ⟨position, data, _, _, rfl⟩
    constructor
    · simp only [leafTextAll, leafText_leaf]
      split <;> simp
    · intro n hn
      rw [List.mem_singleton.1 hn]
      exact wellSpelled_leaf fun name c => by split <;> simp

/-- The node of a piece spells the piece. -/
theorem spells_of_node {p : Placement} {start : Nat} {q : Piece} {n : Node}
    (h : p.node start q = .ok n) : n.leafText = q.source ∧ n.WellSpelled := by
  cases q with
  | text t =>
      rcases Placement.exists_of_node_text h with ⟨l, hl, rfl⟩
      rcases Placement.exists_of_textLabel hl with ⟨position, data, _, _, rfl⟩
      exact ⟨rfl, wellSpelled_leaf fun name c => by simp⟩
  | expression raw =>
      rcases Placement.exists_of_node_expression h with ⟨position, _, rfl⟩
      exact ⟨rfl, wellSpelled_leaf fun name c => by simp [Label.expression]⟩
  | tag raw =>
      rcases Placement.exists_of_node_tag h with ⟨position, _, rfl⟩
      exact ⟨rfl, wellSpelled_tag raw position⟩
  | block opening body closing isVerbatim =>
      rcases Placement.exists_of_node_block h with
        ⟨position, firstPosition, inner, lastPosition, _, _, hi, _, rfl⟩
      have hinner := spells_of_bodyNodes hi
      -- The leaves of a block spell its opening tag, its body and its closing tag.
      have hspelled : leafTextAll (leaf (.tag opening firstPosition) ::
          (inner ++ [leaf (.tag closing lastPosition)])) = opening ++ body ++ closing := by
        rw [leafTextAll, leafTextAll_append, hinner.1, leafTextAll, leafTextAll, leafText_leaf,
          leafText_leaf]
        simp [Label.tag]
      refine ⟨?_, wellSpelled_branch ?_ ?_ ?_⟩
      · rw [leafText, if_neg (by simp)]
        exact hspelled
      · exact Label.blockType_ne_textType
      · intro name c hk
        simp only [label, Label.block, Kind.block.injEq] at hk
        rw [← hk.2]
        exact hspelled
      · intro c hc
        rcases List.mem_cons.1 hc with rfl | hc
        · exact wellSpelled_tag opening firstPosition
        · rcases List.mem_append.1 hc with hc | hc
          · exact hinner.2 c hc
          · rw [List.mem_singleton.1 hc]
            exact wellSpelled_tag closing lastPosition

theorem leafTextAll_of_nodes {p : Placement} {qs : List Piece} {start : Nat} {ns : List Node}
    (h : p.nodes start qs = .ok ns) : leafTextAll ns = qs.flatMap Piece.source := by
  induction qs generalizing start ns with
  | nil =>
      cases h
      rfl
  | cons q qs ih =>
      rcases Placement.exists_of_nodes_cons h with ⟨n, rest, hn, hr, rfl⟩
      rw [leafTextAll, (spells_of_node hn).1, ih hr, List.flatMap_cons]

/-- A text that is not empty falls into nodes that spell it. -/
theorem spells_of_splitText {T : TagTables} {p : Placement} {t : Text} {ns : List Node}
    (ht : t ≠ []) (h : splitText T p t = .ok ns) :
    leafTextAll ns = t ∧ ∀ n ∈ ns, n.WellSpelled := by
  rw [splitText, if_neg ht] at h
  constructor
  · rw [leafTextAll_of_nodes h, joined_pieces]
  · intro n hn
    rcases exists_mem_of_nodes h hn with ⟨q, _, place, hq⟩
    exact (spells_of_node hq).2

/-! ## Splitting whole trees -/

theorem TextsAreLeaves.of_mem {l : Label} {cs : List Node} (h : (branch l cs).TextsAreLeaves)
    {c : Node} (hc : c ∈ cs) : c.TextsAreLeaves :=
  fun b hb => h b (List.mem_cons_of_mem _ (mem_nodesAll.2 ⟨c, hc, hb⟩))

theorem WellSpelled.of_mem {l : Label} {cs : List Node} (h : (branch l cs).WellSpelled)
    {c : Node} (hc : c ∈ cs) : c.WellSpelled :=
  ⟨h.1.of_mem hc, fun b hb => h.2 b (List.mem_cons_of_mem _ (mem_nodesAll.2 ⟨c, hc, hb⟩))⟩

/-- A text without children that stays is spliced in its own place. -/
theorem Spliced.cons_text {c : Node} {ns ns' : List Node} (hc : c.label.type = Label.textType)
    (hchildren : c.children = []) (rest : Spliced ns ns') : Spliced (c :: ns) (c :: ns') := by
  have htext : leafTextAll [c] = c.label.value.getD [] := by
    rw [leafTextAll, leafTextAll, List.append_nil, leafText_eq_of_children hchildren]
  have hnodes : nodesAll [c] = [c] := by
    cases c with
    | branch l cs =>
        simp only [children] at hchildren
        simp [nodesAll, nodes, hchildren]
    | stub l => simp [nodesAll, nodes]
  change Spliced (c :: ns) ([c] ++ ns')
  refine .text hc (List.cons_ne_nil _ _) htext (fun b hb => .inl ?_) rest
  rw [hnodes] at hb
  rw [List.mem_singleton.1 hb]

/-- What splitting some nodes keeps: texts are replaced in place, the text of the leaves is the
same, no list is emptied, and blocks that are spelled stay so. -/
structure Respelled (ns ns' : List Node) : Prop where
  spliced : Spliced ns ns'
  leafText : leafTextAll ns' = leafTextAll ns
  eq_nil_iff : ns = [] ↔ ns' = []
  wellSpelled : (∀ n ∈ ns, n.WellSpelled) → ∀ n ∈ ns', n.WellSpelled

/-- A node whose children are split says what it said. -/
theorem Respelled.branch {l : Label} {cs cs' : List Node} (h : Respelled cs cs') :
    (Node.branch l cs').leafText = (Node.branch l cs).leafText ∧
      ((Node.branch l cs).WellSpelled → (Node.branch l cs').WellSpelled) := by
  refine ⟨leafText_branch_eq h.leafText h.eq_nil_iff, ?_⟩
  intro hw
  by_cases hl : l.type = Label.textType
  · -- A text has no children to split.
    have hcs : cs = [] := hw.1 _ (mem_nodes_self _) hl
    rw [h.eq_nil_iff.1 hcs]
    rwa [hcs] at hw
  · refine wellSpelled_branch hl ?_ (h.wellSpelled fun c hc => hw.of_mem hc)
    intro name c hk
    rw [children, h.leafText]
    exact hw.2 _ (mem_nodes_self _) name c hk

/-- The nodes that take the place of a text say what they said before their children were split. -/
theorem respelled_of_forall₂ {T : TagTables} {index : Option LineIndex} {split new : List Node}
    (h : List.Forall₂ (fun n n' => ∃ l ds ds', n = .branch l ds ∧ n' = .branch l ds' ∧
      segmentAll T index ds = .ok ds' ∧ ((∀ d ∈ ds, d.TextsAreLeaves) → Respelled ds ds'))
        split new)
    (hw : ∀ n ∈ split, n.WellSpelled) :
    leafTextAll new = leafTextAll split ∧ ∀ n ∈ new, n.WellSpelled := by
  induction h with
  | nil => exact ⟨rfl, hw⟩
  | @cons n n' split new hn _ ih =>
      rcases hn with ⟨l, ds, ds', rfl, rfl, _, hd⟩
      have hhead := hw _ List.mem_cons_self
      have hbranch := (hd fun d hd => (hhead.of_mem hd).1).branch (l := l)
      have htail := ih fun n hn => hw n (List.mem_cons_of_mem _ hn)
      constructor
      · rw [leafTextAll, leafTextAll, hbranch.1, htail.1]
      · intro n hn
        rcases List.mem_cons.1 hn with rfl | hn
        · exact hbranch.2 hhead
        · exact htail.2 n hn

theorem Respelled.wellSpelled_cons {c c' : Node} {ns ns' : List Node} (h : Respelled ns ns')
    (hc : c.WellSpelled → c'.WellSpelled) :
    (∀ n ∈ c :: ns, n.WellSpelled) → ∀ n ∈ c' :: ns', n.WellSpelled := by
  intro hw
  rcases List.forall_mem_cons.1 hw with ⟨hhead, htail⟩
  exact List.forall_mem_cons.2 ⟨hc hhead, h.wellSpelled htail⟩

/-- A node that stays as it is. -/
theorem Respelled.cons_self {c : Node} {ns ns' : List Node} (h : Respelled ns ns')
    (hs : Spliced (c :: ns) (c :: ns')) : Respelled (c :: ns) (c :: ns') where
  spliced := hs
  leafText := by rw [leafTextAll, leafTextAll, h.leafText]
  eq_nil_iff := by simp
  wellSpelled := h.wellSpelled_cons fun hc => hc

/-- A text that gives way to nodes that spell it. -/
theorem Respelled.append_text {c : Node} {t : Text} {new ns ns' : List Node}
    (h : Respelled ns ns') (ho : c.label.openText? = some t) (hc : c.children = [])
    (htext : leafTextAll new = t) (hw : ∀ n ∈ new, n.WellSpelled) :
    Respelled (c :: ns) (new ++ ns') := by
  rcases Label.eq_of_openText? ho with ⟨htype, hvalue, ht⟩
  have hne : new ≠ [] := by
    intro hnil
    rw [hnil] at htext
    exact ht htext.symm
  have hspell : leafTextAll new = c.label.value.getD [] := by
    rw [htext, hvalue]
    rfl
  refine ⟨.text htype hne hspell (fun b hb => .inr ?_) h.spliced, ?_, by simp [hne], ?_⟩
  · rcases mem_nodesAll.1 hb with ⟨n, hn, hbn⟩
    exact (hw n hn).2 b hbn
  · rw [leafTextAll_append, leafTextAll, hspell, h.leafText, leafText_eq_of_children hc]
  · intro hall n hn
    rcases List.mem_append.1 hn with hn | hn
    · exact hw n hn
    · exact h.wellSpelled (List.forall_mem_cons.1 hall).2 n hn

theorem respelled_segmentAll {T : TagTables} {index : Option LineIndex} {ns ns' : List Node}
    (h : segmentAll T index ns = .ok ns') :
    (∀ n ∈ ns, n.TextsAreLeaves) → Respelled ns ns' := by
  refine segmentAll_induction (P := fun ns ns' =>
    (∀ n ∈ ns, n.TextsAreLeaves) → Respelled ns ns') ?nil ?branch ?stub ?kept ?replaced h
  case nil =>
    intro _
    exact ⟨.nil, rfl, Iff.rfl, fun h => h⟩
  case branch =>
    intro l cs cs' ns ns' _ ihBelow ihRest hleaves
    rcases List.forall_mem_cons.1 hleaves with ⟨hl, hns⟩
    have hbelow := ihBelow fun c hc => hl.of_mem hc
    have hrest := ihRest hns
    refine ⟨?_, ?_, by simp, hrest.wellSpelled_cons hbelow.branch.2⟩
    · by_cases htype : l.type = Label.textType
      · -- An empty text has no children that could be split.
        have hcs : cs = [] := hl _ (mem_nodes_self _) htype
        rw [hbelow.eq_nil_iff.1 hcs, hcs]
        exact .cons_text htype rfl hrest.spliced
      · exact .branch htype rfl hbelow.spliced hrest.spliced
    · rw [leafTextAll, leafTextAll, hbelow.branch.1, hrest.leafText]
  case stub =>
    intro l ns ns' _ ihRest hleaves
    have hrest := ihRest (List.forall_mem_cons.1 hleaves).2
    apply hrest.cons_self
    by_cases htype : l.type = Label.textType
    · exact .cons_text htype rfl hrest.spliced
    · exact .stub htype rfl hrest.spliced
  case kept =>
    intro c t split ns ns' ho _ _ ihRest hleaves
    rcases List.forall_mem_cons.1 hleaves with ⟨hc, hns⟩
    have htype := (Label.eq_of_openText? ho).1
    have hrest := ihRest hns
    apply hrest.cons_self
    exact .cons_text htype (hc c (mem_nodes_self c) htype) hrest.spliced
  case replaced =>
    intro c t split new ns ns' ho hs _ hnew ihRest hleaves
    rcases List.forall_mem_cons.1 hleaves with ⟨hc, hns⟩
    have htype := (Label.eq_of_openText? ho).1
    rcases spells_of_splitText (Label.eq_of_openText? ho).2.2 hs with ⟨htext, hw⟩
    rcases respelled_of_forall₂ hnew hw with ⟨hsame, hwnew⟩
    exact (ihRest hns).append_text ho (hc c (mem_nodes_self c) htype) (hsame.trans htext) hwnew

end Node

/-! ## The whole -/

/-- Annotating replaces each text below the root, in its place, by nodes that spell it, and leaves
the type, the value, the position and the data of every other node.  The text of the document is
the same as before. -/
theorem annotate_spliced {T : TagTables} {source : Option Text} {n m : Node}
    (hleaves : n.TextsAreLeaves) (h : annotate T source (some n) = .ok m) :
    ∃ l l' cs cs', n = .branch l cs ∧ m = .branch l' cs' ∧ l'.bare = l.bare ∧
      Node.Spliced cs cs' ∧ m.leafText = n.leafText := by
  rcases exists_segmentTree_of_annotate h with ⟨s, hs, hbare, _⟩
  cases n with
  | stub l => cases hs
  | branch l cs =>
      rw [segmentTree, Node.segment_branch] at hs
      rcases exists_ok_of_bind hs with ⟨cs', hcs, hs⟩
      cases hs
      have hsplit := Node.respelled_segmentAll hcs fun c hc => hleaves.of_mem hc
      cases m with
      | stub l' => cases hbare
      | branch l' ms =>
          have hparts :
              l'.bare = l.bare ∧ Node.mapAll Label.bare ms = Node.mapAll Label.bare cs' := by
            simpa [Node.map] using hbare
          have hvalue (l : Label) : l.bare.value = l.value := rfl
          refine ⟨l, l', cs, ms, rfl, rfl, hparts.1, hsplit.spliced.of_mapAll_bare hparts.2, ?_⟩
          -- Reading, pairing and settling keep all values.
          calc
            (Node.branch l' ms).leafText
                = ((Node.branch l' ms).map Label.bare).leafText :=
                  (Node.leafText_map hvalue _).symm
            _ = ((Node.branch l cs').map Label.bare).leafText := by rw [hbare]
            _ = (Node.branch l cs').leafText := Node.leafText_map hvalue _
            _ = (Node.branch l cs).leafText := hsplit.branch.1

/-- A paragraph with a block in the body of another, an empty block, and a tag without an end. -/
def nestedParagraph : Node :=
  .branch { type := "root" } [.branch { type := "paragraph" } [.leaf {
    type := Label.textType
    value :=
      some "a {% if b %}{% for c %}{{ c }}{% endfor %}{% endif %}{% raw %}{% endraw %} \x7b% d" }]]

theorem annotate_spliced_nestedParagraph : nestedParagraph.TextsAreLeaves ∧
    ∃ m, annotate .standard none (some nestedParagraph) = .ok m ∧
      ∃ l l' cs cs', nestedParagraph = .branch l cs ∧ m = .branch l' cs' ∧ l'.bare = l.bare ∧
        Node.Spliced cs cs' ∧ m.leafText = nestedParagraph.leafText := by
  have hleaves : nestedParagraph.TextsAreLeaves := by
    unfold Node.TextsAreLeaves
    decide
  have hplain : ∀ l ∈ nestedParagraph.labels, l.data = [] := by
    simp [nestedParagraph, Node.leaf, Node.labels, Node.labelsAll]
  have hannotatable : nestedParagraph.Annotatable := by
    constructor
    · intro l hl t m _ hm
      rw [hplain l hl] at hm
      cases hm
    · intro l hl
      simp [nestedParagraph, Node.leaf, Node.nodes, Node.nodesAll] at hl
  rcases exists_annotate .standard none hannotatable with ⟨m, hm⟩
  exact ⟨hleaves, m, hm, annotate_spliced hleaves hm⟩

end LiquidMarkdown
