import LiquidMarkdown.Proofs.Document.Framing

/-!
# Blocks of a split document

The body of a block was cut out by a scan over the text, and is split on its own afterwards.  This
file defines:

* `Label.Transparent` — a label that hides no tag from the nodes of a document;
* `Node.scannedNames` — the names of the tags of some nodes, as the scan sees them;
* `Node.scannedNames_segmentAll` — where no label hides a tag, these are the names that the scan
  finds in the texts;
* `Node.Encloses` — a block with its opening tag, what its body was split into, and its closing tag;
* `Node.encloses_segmentAll` — every block of a split document is of this form, and where no label
  hides a tag, the tags of its body are balanced.
-/

namespace LiquidMarkdown

/-! ## Labels -/

namespace Label

/-- The label hides no tag: neither the text of an expression nor a text that may hold constructs
holds the delimiter of a tag. -/
structure Transparent (l : Label) : Prop where
  expression : ∀ c, l.kind = .expression c →
    Text.breakOn Delimiters.tag.opening c.raw = none
  text : ∀ t, l.openText? = some t → Text.breakOn Delimiters.tag.opening t = none

/-- The names of the tags that a label stands for before it is split, as the scan sees them. -/
def names (T : TagTables) (l : Label) : List Text :=
  match l.openText? with
  | some t => T.shown none (tagNames t)
  | none => l.kind.tag?.toList.map fun t => Tag.scannedName t.raw

theorem names_of_openText?_eq_none {T : TagTables} {l : Label} (h : l.openText? = none) :
    l.names T = l.kind.tag?.toList.map fun t => Tag.scannedName t.raw := by
  simp [names, h]

/-- A text that was cut out of another may hold constructs. -/
theorem openText?_of_textLabel {p : Placement} {start : Nat} {t : Text} {l : Label}
    (h : p.textLabel start t = .ok l) (ht : t ≠ []) :
    l.openText? = some t ∧ l.kind = .plain := by
  rcases Placement.exists_of_textLabel h with ⟨position, data, _, hd, rfl⟩
  -- The data that such a text is given holds an offset map at most.
  have hflag : data.flag Data.verbatimKey = false := by
    unfold Placement.dataAt at hd
    split at hd
    · next m _ =>
        split at hd
        · cases hd
          rfl
        · split at hd
          · cases hd
            have hkey : (Data.verbatimKey == Data.offsetsKey) = false := by decide
            simp [Data.flag, Data.get?, List.lookup_cons, hkey]
          · cases hd
    · cases hd
      rfl
  constructor
  · cases t with
    | nil => exact absurd rfl ht
    | cons c t => simp [openText?, hflag]
  · rfl

end Label

/-! ## Names of tags -/

namespace Node

variable {T : TagTables} {index : Option LineIndex} {p : Placement} {start : Nat}

/-- The names of the tags of some nodes, as the scan sees them. -/
def scannedNames (ns : List Node) : List Text :=
  (tagsAll ns).map fun t => Tag.scannedName t.raw

theorem scannedNames_append (as bs : List Node) :
    scannedNames (as ++ bs) = scannedNames as ++ scannedNames bs := by
  simp [scannedNames, tagsAll_append]

theorem scannedNames_cons (n : Node) (ns : List Node) :
    scannedNames (n :: ns) = scannedNames [n] ++ scannedNames ns :=
  scannedNames_append [n] ns

theorem scannedNames_branch (l : Label) (cs : List Node) :
    scannedNames [branch l cs] =
      (l.kind.tag?.toList.map fun t => Tag.scannedName t.raw) ++ scannedNames cs := by
  have hnil : tagsAll [] = [] := rfl
  rw [scannedNames, tagsAll_cons, tags_branch, hnil, List.append_nil, List.map_append]
  rfl

theorem scannedNames_stub (l : Label) :
    scannedNames [stub l] = l.kind.tag?.toList.map fun t => Tag.scannedName t.raw := by
  have hnil : tagsAll [] = [] := rfl
  rw [scannedNames, tagsAll_cons, tags_stub, hnil, List.append_nil]

/-- The node has no children, and if it is a text that may hold constructs, it is no construct
itself and no literal block is left open at its end. -/
structure Scannable (T : TagTables) (n : Node) : Prop where
  children : n.children = []
  text : ∀ t, n.label.openText? = some t →
    n.label.kind = .plain ∧ T.hideAll none (tagNames t) = none

theorem scannable_leaf {l : Label} (h : l.openText? = none) : (leaf l).Scannable T where
  children := rfl
  text t ht := by
    have hnone : (leaf l).label.openText? = none := h
    rw [hnone] at ht
    cases ht

/-- The body of a block stands for the tags that the scan finds in it, unless it is literal text. -/
theorem names_of_bodyNodes {body : Text} {isVerbatim : Bool} {ns : List Node}
    (h : p.bodyNodes start body isVerbatim = .ok ns)
    (hbody : isVerbatim = false → T.hideAll none (tagNames body) = none) :
    (∀ n ∈ ns, n.Scannable T) ∧ (ns.flatMap fun n => n.label.names T) =
      if isVerbatim then [] else T.shown none (tagNames body) := by
  rcases Placement.exists_of_bodyNodes h with ⟨rfl, rfl⟩ | ⟨hne, l, hl, rfl⟩
  · constructor
    · exact fun n hn => absurd hn List.not_mem_nil
    · have hnil : tagNames [] = [] := tagNames_of_breakOn_eq_none rfl
      simp [hnil, TagTables.shown]
  · rcases Label.openText?_of_textLabel hl hne with ⟨ho, hk⟩
    cases isVerbatim with
    | true =>
        -- Literal text is not split any further, so it stands for no tags.
        have hput := l.openText?_put_verbatim
        constructor
        · intro n hn
          rw [List.mem_singleton.1 hn]
          exact scannable_leaf hput
        · have hnames := Label.names_of_openText?_eq_none (T := T) hput
          simp only [if_true, List.flatMap_cons, List.flatMap_nil, List.append_nil]
          apply hnames.trans
          change List.map _ l.kind.tag?.toList = []
          rw [hk]
          rfl
    | false =>
        constructor
        · intro n hn
          rw [List.mem_singleton.1 hn]
          refine ⟨rfl, fun t ht => ⟨hk, ?_⟩⟩
          have hsome : l.openText? = some t := ht
          rw [ho] at hsome
          cases hsome
          exact hbody rfl
        · simp [leaf, label, Label.names, ho]

/-- The node of a piece, with its children split, has the tags of the piece. -/
theorem names_of_node {q : Piece} {l : Label} {ds ds' : List Node}
    (hq : p.node start q = .ok (branch l ds)) (hne : q ≠ .text [])
    (hbody : ∀ opening body closing, q = .block opening body closing false →
      T.hideAll none (tagNames body) = none)
    (hbelow : (∀ d ∈ ds, d.Scannable T) → scannedNames ds' = ds.flatMap fun d => d.label.names T)
    (hl : l.Transparent) : scannedNames [branch l ds'] = q.names T ∧ q.Transparent := by
  -- Only the node of a block has children.
  have hleaf (hds : ds = []) : scannedNames ds' = [] := by
    subst hds
    exact hbelow fun d hd => absurd hd List.not_mem_nil
  rw [scannedNames_branch]
  cases q with
  | text t =>
      rcases Placement.exists_of_node_text hq with ⟨k, hk, heq⟩
      cases heq
      rcases Label.openText?_of_textLabel hk fun ht => hne (congrArg Piece.text ht) with ⟨ho, hkind⟩
      constructor
      · rw [hleaf rfl, hkind]
        rfl
      · exact hl.text t ho
  | expression raw =>
      rcases Placement.exists_of_node_expression hq with ⟨position, _, heq⟩
      cases heq
      constructor
      · rw [hleaf rfl]
        rfl
      · exact hl.expression _ rfl
  | tag raw =>
      rcases Placement.exists_of_node_tag hq with ⟨position, _, heq⟩
      cases heq
      constructor
      · rw [hleaf rfl]
        rfl
      · trivial
  | block opening body closing isVerbatim =>
      rcases Placement.exists_of_node_block hq with
        ⟨position, firstPosition, inner, lastPosition, _, _, hi, _, heq⟩
      cases heq
      have hinner :=
        names_of_bodyNodes (T := T) hi fun hv => hbody opening body closing (by rw [hv])
      -- What a block holds has no children yet, and its body leaves no literal block open.
      have hscannable : ∀ d ∈ leaf (.tag opening firstPosition) ::
          (inner ++ [leaf (.tag closing lastPosition)]), d.Scannable T := by
        intro d hd
        rcases List.mem_cons.1 hd with rfl | hd
        · exact scannable_leaf (Label.openText?_tag _ _)
        · rcases List.mem_append.1 hd with hd | hd
          · exact hinner.1 d hd
          · rw [List.mem_singleton.1 hd]
            exact scannable_leaf (Label.openText?_tag _ _)
      have htag (raw : Text) (position : Option Position) :
          (Label.tag raw position).names T = [Tag.scannedName raw] :=
        Label.names_of_openText?_eq_none (Label.openText?_tag raw position)
      constructor
      · rw [hbelow hscannable, List.flatMap_cons, List.flatMap_append, hinner.2]
        simp only [leaf, label, htag, List.flatMap_cons, List.flatMap_nil]
        rfl
      · trivial

/-- The nodes of some pieces, with their children split, have the tags of the pieces. -/
theorem names_of_nodes {qs : List Piece} {split new : List Node}
    (h : p.nodes start qs = .ok split) (hne : ∀ q ∈ qs, q ≠ .text [])
    (hbody : ∀ opening body closing, .block opening body closing false ∈ qs →
      T.hideAll none (tagNames body) = none)
    (hnew : List.Forall₂ (fun n n' => ∃ l ds ds', n = .branch l ds ∧ n' = .branch l ds' ∧
      ((∀ d ∈ ds, d.Scannable T) → (∀ l ∈ labelsAll ds', l.Transparent) →
        scannedNames ds' = ds.flatMap fun d => d.label.names T)) split new)
    (hl : ∀ l ∈ labelsAll new, l.Transparent) :
    scannedNames new = qs.flatMap (Piece.names T) ∧ ∀ q ∈ qs, q.Transparent := by
  -- Each piece has one node, so both lists are gone through together.
  induction qs generalizing start split new with
  | nil =>
      cases h
      cases hnew
      exact ⟨rfl, fun q hq => absurd hq List.not_mem_nil⟩
  | cons q qs ih =>
      rcases Placement.exists_of_nodes_cons h with ⟨n, ns, hn, hns, rfl⟩
      cases hnew with
      | @cons _ n' _ new hnode hnew =>
          rcases hnode with ⟨l, ds, ds', rfl, rfl, hbelow⟩
          rcases forall_labelsAll_cons.1 hl with ⟨hfirst, hlrest⟩
          rcases forall_labels_branch.1 hfirst with ⟨hlabel, hlbelow⟩
          rcases List.forall_mem_cons.1 hne with ⟨hneq, hnerest⟩
          have hhead := names_of_node hn hneq
            (fun opening body closing hq => hbody opening body closing (hq ▸ List.mem_cons_self))
            (fun hds => hbelow hds hlbelow) hlabel
          have htail := ih hns hnerest
            (fun opening body closing hq =>
              hbody opening body closing (List.mem_cons_of_mem _ hq))
            hnew hlrest
          constructor
          · rw [scannedNames_cons, hhead.1, htail.1, List.flatMap_cons]
          · intro q' hq'
            rcases List.mem_cons.1 hq' with rfl | hq'
            · exact hhead.2
            · exact htail.2 q' hq'

/-- Where no label hides a tag, the tags behind splitting are those that the scan finds in the
texts. -/
theorem scannedNames_segmentAll (hT : T.LiteralBlocks) {ns ns' : List Node}
    (h : segmentAll T index ns = .ok ns') :
    (∀ n ∈ ns, n.Scannable T) → (∀ l ∈ labelsAll ns', l.Transparent) →
      scannedNames ns' = ns.flatMap fun n => n.label.names T := by
  refine segmentAll_induction (P := fun ns ns' =>
    (∀ n ∈ ns, n.Scannable T) → (∀ l ∈ labelsAll ns', l.Transparent) →
      scannedNames ns' = ns.flatMap fun n => n.label.names T) ?nil ?branch ?stub ?kept ?replaced h
  case nil =>
    intro _ _
    rfl
  case branch =>
    intro l cs cs' ns ns' ho ihBelow ihRest hns hl
    rcases List.forall_mem_cons.1 hns with ⟨hc, hnsRest⟩
    rcases forall_labelsAll_cons.1 hl with ⟨hfirst, hlRest⟩
    have hcs : cs = [] := hc.children
    subst hcs
    have hbelow :=
      ihBelow (fun d hd => absurd hd List.not_mem_nil) (forall_labels_branch.1 hfirst).2
    have hrest := ihRest hnsRest hlRest
    have hnames : l.names T = _ := Label.names_of_openText?_eq_none ho
    rw [scannedNames_cons, scannedNames_branch, hbelow, hrest, List.flatMap_cons, label, hnames]
    simp
  case stub =>
    intro l ns ns' ho ihRest hns hl
    rcases List.forall_mem_cons.1 hns with ⟨_, hns⟩
    rcases forall_labelsAll_cons.1 hl with ⟨_, hl⟩
    have hrest := ihRest hns hl
    have hnames : l.names T = _ := Label.names_of_openText?_eq_none ho
    rw [scannedNames_cons, scannedNames_stub, hrest, List.flatMap_cons, label, hnames]
  case kept =>
    -- A text that stays holds no tag.
    intro c t split ns ns' ho _ _ ihRest hns hl
    rcases List.forall_mem_cons.1 hns with ⟨hc, hns⟩
    rcases forall_labelsAll_cons.1 hl with ⟨hfirst, hl⟩
    have hrest := ihRest hns hl
    have hlabel : c.label.Transparent := hfirst _ (label_mem_labels_self c)
    have htext : tagNames t = [] := tagNames_of_breakOn_eq_none (hlabel.text t ho)
    have hnames : c.label.names T = [] := by simp [Label.names, ho, htext, TagTables.shown]
    have htags : scannedNames [c] = [] := by
      have hkind := (hc.text t ho).1
      have hchildren := hc.children
      cases c with
      | branch l cs =>
          simp only [children] at hchildren
          simp only [label] at hkind
          rw [scannedNames_branch, hchildren, hkind]
          rfl
      | stub l =>
          simp only [label] at hkind
          rw [scannedNames_stub, hkind]
          rfl
    rw [scannedNames_cons, htags, hrest, List.flatMap_cons, hnames]
  case replaced =>
    intro c t split new ns ns' ho hs _ hnew ihRest hns hl
    rcases List.forall_mem_cons.1 hns with ⟨hc, hns⟩
    rcases forall_labelsAll_append.1 hl with ⟨hlnew, hl⟩
    have hrest := ihRest hns hl
    have ht : t ≠ [] := (Label.eq_of_openText? ho).2.2
    rw [splitText, if_neg ht] at hs
    -- A text gives way to its pieces, and these have the tags that the scan finds in it.
    have hbody (opening body closing : Text) (hq : .block opening body closing false ∈ pieces T t) :
        T.hideAll none (tagNames body) = none := by
      rcases exists_enclosed_of_mem_pieces hT hq with ⟨content, content', henclosed⟩
      exact henclosed.hideAll_eq rfl
    have hpieces := names_of_nodes hs (fun q hq => ne_text_nil_of_mem_pieces hq) hbody
      (hnew.imp fun n n' hn => by
        rcases hn with ⟨l, ds, ds', hl, hl', _, hP⟩
        exact ⟨l, ds, ds', hl, hl', hP⟩) hlnew
    have hshown := TagTables.shown_tagNames hT hpieces.2 (hc.text t ho).2
    have hnames : c.label.names T = T.shown none (tagNames t) := by simp [Label.names, ho]
    rw [scannedNames_append, hpieces.1, hrest, List.flatMap_cons, hnames, hshown]

end Node

/-! ## Blocks -/

namespace Node

variable {T : TagTables} {index : Option LineIndex} {p : Placement} {start : Nat}

/-- The block begins with its opening tag and ends with its closing tag, and between them there is
what its body was split into.  Where no label hides a tag, the tags of the body are balanced as the
scan sees them. -/
structure Encloses (T : TagTables) (b : Node) (opening closing : Tag) (inner : List Node) :
    Prop where
  children_eq : ∃ first last, b.children = leaf first :: (inner ++ [leaf last]) ∧
    first.kind = .tag opening ∧ last.kind = .tag closing
  opening_eq : ∃ content, opening.raw = Delimiters.tag.wrap content
  closing_eq : ∃ content, closing.raw = Delimiters.tag.wrap content
  isBlockStart : T.isBlockStart (Tag.scannedName opening.raw) = true
  scannedName_closing : Tag.scannedName closing.raw = Tag.endOf (Tag.scannedName opening.raw)
  balanced : (∀ l ∈ labelsAll inner, l.Transparent) →
    (nameBrackets (Tag.scannedName opening.raw)).Balanced (scannedNames inner)

/-- The node of a block, with its children split, encloses what its body was split into. -/
theorem exists_encloses_of_node (hT : T.LiteralBlocks) {t opening body closing : Text}
    {isVerbatim : Bool} {l : Label} {ds ds' : List Node}
    (hmem : .block opening body closing isVerbatim ∈ pieces T t)
    (hq : p.node start (.block opening body closing isVerbatim) = .ok (branch l ds))
    (hds : segmentAll T index ds = .ok ds') :
    ∃ first last inner, (branch l ds').Encloses T first last inner := by
  rcases exists_enclosed_of_mem_pieces hT hmem with ⟨content, content', he⟩
  rcases Placement.exists_of_node_block hq with ⟨_, _, inner, _, _, _, hi, _, heq⟩
  cases heq
  have hinner := names_of_bodyNodes (T := T) hi he.hideAll_eq
  rcases exists_of_segmentAll_block (Label.openText?_tag _ _) (Label.openText?_tag _ _) hds with
    ⟨inner', hsplit, rfl⟩
  have hopening : Tag.scannedName opening = Tag.nameOf content := by
    rw [he.opening_eq, Tag.scannedName_wrap]
  have hclosing : Tag.scannedName closing = Tag.nameOf content' := by
    rw [he.closing_eq, Tag.scannedName_wrap]
  refine ⟨{ raw := opening }, { raw := closing }, inner', ⟨_, _, rfl, rfl, rfl⟩,
    ⟨content, he.opening_eq⟩, ⟨content', he.closing_eq⟩, ?_, ?_, ?_⟩
  · rw [hopening]
    exact he.isBlockStart
  · rw [hclosing, hopening]
    exact he.nameOf_closing
  · intro htransparent
    have hnames := scannedNames_segmentAll hT hsplit hinner.1 htransparent
    rw [hopening, hnames, hinner.2]
    cases isVerbatim with
    | true => exact .nil
    | false => exact he.balanced rfl

/-- Every block behind splitting encloses what its body was split into, unless it was there
before. -/
theorem encloses_segmentAll (hT : T.LiteralBlocks) {ns ns' : List Node}
    (h : segmentAll T index ns = .ok ns') :
    (∀ l ∈ labelsAll ns, l.kind.isBlock = false) → ∀ b ∈ nodesAll ns', b.label.kind.isBlock = true →
      ∃ opening closing inner, b.Encloses T opening closing inner :=
  forall_blocks_segmentAll (fun hmem hq hds => exists_encloses_of_node hT hmem hq hds) h

end Node
end LiquidMarkdown
