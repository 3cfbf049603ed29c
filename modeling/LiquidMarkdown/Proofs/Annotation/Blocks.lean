import LiquidMarkdown.Proofs.Annotation.Pairing
import LiquidMarkdown.Proofs.Annotation.Settling
import LiquidMarkdown.Proofs.Annotation.Totality
import LiquidMarkdown.Proofs.Document.Blocks
import LiquidMarkdown.Proofs.Document.Numbering
import LiquidMarkdown.Proofs.Tag.Name

/-!
# Blocks and the pairing of their tags

Where a block ends is found by a scan over its text, and which tags belong together by a pairing of
the tags that splitting yields.  This file compares the two:

* `Node.Encloses.of_bare` — a block of the annotated tree encloses what it did before;
* `Tag.ReadAlike.name_eq_scannedName` — the tags around a body are read as the scan sees them;
* `Node.Encloses.balanced_tags` — where a body hides no tag, its tags are balanced;
* `Node.HoldsOnly` — a document of one text;
* `Node.PairedBlock` — the tags around a block are paired, and the block was read;
* `Node.Tied.hasTags` — the tags around a body are tags of one block, read as the scan sees them;
* `annotate_matched` — this is so for the blocks whose bodies are balanced.
-/

namespace LiquidMarkdown

/-! ## Blocks of the annotated tree -/

namespace Label

theorem openText?_bare (l : Label) : l.bare.openText? = l.openText? := rfl

theorem Transparent.of_bare {l l' : Label} (h : l'.bare = l.bare) (hl : l.Transparent) :
    l'.Transparent where
  expression c hc := by
    have hkind := (eq_of_bare h).2.2.2.2
    rw [hc] at hkind
    cases hk : l.kind with
    | expression d =>
        rw [hk] at hkind
        have hraw : c.raw = d.raw := by
          simpa [Kind.bare] using hkind
        rw [hraw]
        exact hl.expression d hk
    | plain | tag _ | block _ _ =>
        rw [hk] at hkind
        cases hkind
  text t ht := by
    apply hl.text t
    rw [← openText?_bare, ← h]
    exact ht

end Label

namespace Node

variable {T : TagTables}

/-- Nodes that are written alike have tags of the same names, as the scan sees them. -/
theorem scannedNames_of_bare {ns ms : List Node} (h : mapAll Label.bare ms = mapAll Label.bare ns) :
    scannedNames ms = scannedNames ns := by
  have hbare (ks : List Node) : scannedNames (mapAll Label.bare ks) = scannedNames ks := by
    simp only [scannedNames, tagsAll, labelsAll_mapAll, List.filterMap_map, List.map_filterMap]
    congr 1
    funext l
    cases hk : l.kind with
    | plain | expression _ | tag _ | block _ _ => simp [Label.bare, Kind.bare, hk, Kind.tag?]
  rw [← hbare ms, h, hbare ns]

theorem transparent_of_bare {ns ms : List Node} (h : mapAll Label.bare ms = mapAll Label.bare ns)
    (ht : ∀ l ∈ labelsAll ms, l.Transparent) : ∀ l ∈ labelsAll ns, l.Transparent := by
  intro l hl
  have hlabels := congrArg labelsAll h
  rw [labelsAll_mapAll, labelsAll_mapAll] at hlabels
  have hmem : l.bare ∈ (labelsAll ms).map Label.bare := by
    rw [hlabels]
    exact List.mem_map_of_mem hl
  rcases List.mem_map.1 hmem with ⟨k, hk, hbare⟩
  exact (ht k hk).of_bare hbare.symm

theorem Encloses.tied {b : Node} {opening closing : Tag} {inner : List Node}
    (h : b.Encloses T opening closing inner) : b.Tied T opening closing inner :=
  ⟨h.children_eq, h.opening_eq, h.closing_eq, h.isBlockStart, h.scannedName_closing⟩

/-- A block that is written like one that encloses a body encloses one. -/
theorem Encloses.of_bare {b b₀ : Node} {opening closing : Tag} {inner : List Node}
    (h : b₀.Encloses T opening closing inner) (hb : b.map Label.bare = b₀.map Label.bare) :
    ∃ opening' closing' inner', b.Encloses T opening' closing' inner' := by
  rcases h.tied.of_bare hb with ⟨opening', closing', inner', htied, hopening, hinner⟩
  refine ⟨opening', closing', inner', htied.flanked, htied.opening_eq, htied.closing_eq,
    htied.isBlockStart, htied.scannedName_closing, ?_⟩
  intro ht
  rw [hopening, scannedNames_of_bare hinner]
  exact h.balanced (transparent_of_bare hinner ht)

end Node

/-! ## Names -/

namespace Tag

/-- A tag that was read as one that opens a block has a name that does. -/
theorem ReadAlike.isBlockStart_of_isStart {T : TagTables} {t : Tag} (h : t.ReadAlike T)
    (hs : t.isStart = true) : T.isBlockStart t.name = true := by
  have hraw : t.raw ≠ [] := by
    intro hnil
    rw [h.field Tag.isStart fun _ => rfl, read, if_pos hnil] at hs
    cases hs
  exact TagTables.isBlockStart_of_role ((h.roles_of_raw hraw).1.1 hs)

/-- Where the scan sees a name, reading the tag sees the same one. -/
theorem ReadAlike.name_eq_scannedName {T : TagTables} {t : Tag} (h : t.ReadAlike T)
    {content : Text} (hraw : t.raw = Delimiters.tag.wrap content)
    (hname : scannedName t.raw ≠ unknownName) : t.name = scannedName t.raw := by
  rw [hraw, scannedName_wrap] at hname
  have hne : t.raw ≠ [] := by
    rw [hraw]
    exact List.cons_ne_nil _ _
  rw [h.name_eq hne, hraw, scannedName_wrap]
  -- Stripping may lay bare a name that the scan does not see, but it keeps one that it sees.
  cases hn : nameOf? content with
  | none =>
      rw [nameOf, hn] at hname
      exact absurd rfl hname
  | some w => rw [nameOf, nameOf, nameOf?_strip hn, hn]

end Tag

namespace Node

variable {T : TagTables} {b : Node} {opening closing : Tag} {inner : List Node}

/-- Where the body of a block hides no tag, and its tags are read as the scan sees them, the tags
are balanced. -/
theorem Encloses.balanced_tags (h : b.Encloses T opening closing inner)
    (hunknown : T.isBlockStart Tag.unknownName = false)
    (ht : ∀ l ∈ labelsAll inner, l.Transparent) (hread : ∀ t ∈ tagsAll inner, t.ReadAlike T)
    (hname : ∀ t ∈ tagsAll inner, t.name = Tag.scannedName t.raw) :
    (Tag.brackets (Tag.scannedName opening.raw)).Balanced (tagsAll inner) := by
  have hX := h.isBlockStart
  have hbalanced := h.balanced ht
  generalize Tag.scannedName opening.raw = X at hX hbalanced
  -- A tag is a bracket by its role exactly where it is one by its name.
  have hrenamed : (nameBrackets X).Balanced ((tagsAll inner).map fun t => Tag.scannedName t.raw) ↔
      (Tag.brackets X).Balanced (tagsAll inner) := by
    refine Brackets.balanced_map_iff ?_ ?_
    · intro t hmem
      rcases (hread t hmem).roles hunknown with ⟨hstart, _⟩
      rw [← hname t hmem, Bool.eq_iff_iff]
      simp only [nameBrackets, Tag.brackets, Bool.and_eq_true, decide_eq_true_eq]
      constructor
      · intro hn
        refine ⟨hstart.2 ?_, hn⟩
        rw [hn, TagTables.role_of_isBlockStart hX]
      · exact fun hs => hs.2
    · intro t hmem
      rcases (hread t hmem).roles hunknown with ⟨hstart, hend⟩
      rw [← hname t hmem, Bool.eq_iff_iff]
      simp only [nameBrackets, Tag.brackets, Bool.and_eq_true, decide_eq_true_eq, Bool.not_eq_true']
      constructor
      · intro hn
        have hrole : T.role t.name = .blockEnd := by rw [hn, TagTables.role_endOf hX]
        refine ⟨⟨?_, hend.2 hrole⟩, by rw [hn, Tag.blockOfEnd_endOf]⟩
        apply Bool.eq_false_iff.2
        intro hs
        rw [hstart.1 hs] at hrole
        cases hrole
      · rintro ⟨⟨_, he⟩, hn⟩
        have hendOf := TagTables.eq_endOf_of_role (hend.1 he)
        rwa [hn] at hendOf
  exact hrenamed.1 hbalanced

/-! ## Documents of one text -/

/-- The tree has no constructs, and the only text in it that may hold some is `t`. -/
structure HoldsOnly (n : Node) (t : Text) (position : Option Position) : Prop where
  root : ∃ l cs, n = branch l cs
  labels : ∃ pre post,
    n.labels = pre ++ { type := Label.textType, value := some t, position := position } :: post ∧
      ∀ l ∈ pre ++ post, l.openText? = none ∧ l.kind = .plain

namespace HoldsOnly

variable {n : Node} {t : Text} {position : Option Position}

/-- What holds of the one text, and of whatever is no construct and no text, holds of all labels. -/
theorem forall_labels (h : n.HoldsOnly t position) {Q : Label → Prop}
    (htext : Q { type := Label.textType, value := some t, position := position })
    (hplain : ∀ l : Label, l.openText? = none → l.kind = .plain → Q l) : ∀ l ∈ n.labels, Q l := by
  rcases h.labels with ⟨pre, post, hlabels, hothers⟩
  intro l hl
  rw [hlabels] at hl
  rcases List.mem_append.1 hl with hl | hl
  · rcases hothers l (List.mem_append_left _ hl) with ⟨ho, hk⟩
    exact hplain l ho hk
  · rcases List.mem_cons.1 hl with rfl | hl
    · exact htext
    · rcases hothers l (List.mem_append_right _ hl) with ⟨ho, hk⟩
      exact hplain l ho hk

theorem kind_eq_plain (h : n.HoldsOnly t position) : ∀ l ∈ n.labels, l.kind = .plain :=
  h.forall_labels rfl fun _ _ hk => hk

theorem annotatable (h : n.HoldsOnly t position) : n.Annotatable where
  placeable := by
    refine h.forall_labels ?_ ?_
    · intro u m _ hm
      cases hm
    · intro l ho _ u m hu
      rw [ho] at hu
      cases hu
  branches l hl name c hk := by
    have hmem : l ∈ n.labels := label_mem_labels hl
    rw [h.kind_eq_plain l hmem] at hk
    cases hk

/-- The one text stands somewhere in the source, or nowhere. -/
theorem inOrder_or_unplaced (h : n.HoldsOnly t position)
    (hp : ∀ p, position = some p → 0 ≤ p.start.offset) (index : Option LineIndex) :
    (∃ ix lo hi, index = some ix ∧ InOrder ix False lo hi n.labels) ∨
      ∀ l ∈ n.labels, l.Unplaced index := by
  have hclosed (l : Label) (ho : l.openText? = none) (hk : l.kind = .plain) : l.Unplaced index := by
    constructor
    · intro u hu
      rw [ho] at hu
      cases hu
    · intro u hu
      rw [hk] at hu
      cases hu
  cases index with
  | none => exact .inr (h.forall_labels ⟨fun _ _ => .inl rfl, fun _ hu => by cases hu⟩ hclosed)
  | some ix =>
      cases position with
      | none => exact .inr (h.forall_labels ⟨fun _ _ => .inr rfl, fun _ hu => by cases hu⟩ hclosed)
      | some p =>
          -- The text starts at its own offset; what is around it may stand anywhere.
          rcases h.labels with ⟨pre, post, hlabels, hothers⟩
          have hoffset : ((p.start.offset.toNat : Nat) : Int) = p.start.offset :=
            Int.toNat_of_nonneg (hp p rfl)
          generalize p.start.offset.toNat = o at hoffset
          refine .inl ⟨ix, 0, ix.clamp (o + t.length : Nat), rfl, ?_⟩
          have hplain (ls : List Label) (hls : ls ⊆ pre ++ post) (k : Nat) :
              InOrder ix False k k ls := by
            refine .of_closed (Nat.le_refl k) fun l hl => ⟨(hothers l (hls hl)).1, ?_⟩
            intro u hu
            rw [(hothers l (hls hl)).2] at hu
            cases hu
          rw [hlabels]
          refine (hplain pre (List.subset_append_left _ _) 0).append
            ⟨_, ⟨Nat.zero_le _, ?_, fun u hu => by cases hu⟩,
              hplain post (List.subset_append_right _ _) _⟩
          intro u hu
          cases (Label.eq_of_openText? hu).2.1
          refine ⟨_, Nat.zero_le _, Nat.le_refl _,
            Placement.spreads_of_advances rfl ?_ (OffsetMap.advances_contiguous ix o t.length)⟩
          rw [hoffset]
          rfl

/-- Splitting such a document finds constructs that nothing is known about, tags in order, and
blocks that enclose their bodies. -/
theorem of_segmentTree (h : n.HoldsOnly t position)
    (hp : ∀ p, position = some p → 0 ≤ p.start.offset) (hT : T.LiteralBlocks)
    {index : Option LineIndex} {s : Node} (hs : segmentTree T index (some n) = .ok s) :
    (∀ l ∈ s.labels, l.Found) ∧ s.roster.Ordered ∧ ∀ b ∈ s.nodes, b.label.kind.isBlock = true →
      ∃ opening closing inner, b.Encloses T opening closing inner := by
  rcases h.root with ⟨l, cs, rfl⟩
  rcases exists_of_segmentTree_branch hs with ⟨cs', hcs, rfl⟩
  have hkinds := h.kind_eq_plain
  have hl : l.kind = .plain := hkinds l List.mem_cons_self
  have hcsKinds (k : Label) (hk : k ∈ labelsAll cs) : k.kind = .plain :=
    hkinds k (List.mem_cons_of_mem _ hk)
  refine ⟨?_, ?_, ?_⟩
  · have hfound (k : Label) (hk : k.kind = .plain) : k.Found := by
      rw [Label.Found, hk]
      rfl
    have hrest := found_segmentAll hcs fun k hk => hfound k (hcsKinds k hk)
    intro k hk
    rcases List.mem_cons.1 hk with rfl | hk
    · exact hfound k hl
    · exact hrest k hk
  · -- The text has a place, and its parts stand there in order, or no part of it has one.
    rcases h.inOrder_or_unplaced hp index with ⟨ix, lo, hi, rfl, hin⟩ | hun
    · rcases hin with ⟨mid, hwithin, hrest⟩
      have hsplit : InOrder ix False lo hi (branch l cs').labels :=
        ⟨mid, hwithin, inOrder_segmentAll hcs mid hi hrest⟩
      exact (apart_of_inOrder hsplit).ordered
    · have hrest := unplaced_segmentAll hcs fun k hk => hun k (List.mem_cons_of_mem _ hk)
      have hsplit (k : Label) (hk : k ∈ (branch l cs').labels) : k.Unplaced index := by
        rcases List.mem_cons.1 hk with rfl | hk
        · exact hun k List.mem_cons_self
        · exact hrest k hk
      exact ordered_of_unplaced hsplit
  · intro b hb hblock
    rcases List.mem_cons.1 hb with rfl | hb
    · rw [label, hl] at hblock
      cases hblock
    · refine encloses_segmentAll hT hcs ?_ b hb hblock
      intro k hk
      rw [hcsKinds k hk]
      rfl

end HoldsOnly

/-! ## The tags around a block -/

/-- The tags `i` and `j` are paired, the closing one names the block that the opening one opened,
and the block `b` was read. -/
structure PairedBlock (m : Node) (i j : TagId) (b : Node) : Prop where
  paired : m.roster.Paired i j
  matchingId : (m.roster.tag j).matchingId = (m.roster.tag i).blockId
  isSuccess : ∃ name c, b.label.kind = .block name c ∧ c.isSuccess = true

/-- The tags of a block: an opening tag, the tags of its body, and a closing tag of its type. -/
structure HasTags (b : Node) (opening : Tag) (body : List Tag) (closing : Tag) : Prop where
  tags_eq : b.tags = opening :: (body ++ [closing])
  first : openingTag? b.children = some opening
  last : closingTag? b.children = some closing
  isStart : opening.isStart = true
  isEnd : closing.isEnd = true
  name_closing : closing.name = Tag.endOf opening.name

variable {T : TagTables} {b m : Node} {opening closing : Tag} {body : List Tag} {inner : List Node}

/-- The tags around the body of a block are an opening tag and a closing tag of its type, if the
first one is read as the scan sees it. -/
theorem Tied.hasTags (h : b.Tied T opening closing inner) (hb : b.label.kind.isBlock = true)
    (hread : ∀ t ∈ b.tags, t.ReadAlike T) (hname : opening.name = Tag.scannedName opening.raw) :
    b.HasTags opening (tagsAll inner) closing := by
  rcases h.flanked.tags_eq hb with ⟨htags, hfirst, hlast⟩
  have hopening : opening.ReadAlike T := hread opening (by rw [htags]; exact List.mem_cons_self)
  have hclosing : closing.ReadAlike T := by
    apply hread closing
    rw [htags]
    exact List.mem_cons_of_mem _ (List.mem_append_right _ List.mem_cons_self)
  have hraw {t : Tag} (ht : ∃ content, t.raw = Delimiters.tag.wrap content) : t.raw ≠ [] := by
    rcases ht with ⟨content, hwrap⟩
    rw [hwrap]
    exact Delimiters.wrap_ne_nil (List.cons_ne_nil _ _) content
  -- The closing tag is read under the name that the search for the end of a block saw.
  have hname' : closing.name = Tag.endOf opening.name := by
    rcases h.closing_eq with ⟨content, hwrap⟩
    have hendOf := h.scannedName_closing
    rw [hname, ← hendOf]
    apply hclosing.name_eq_scannedName hwrap
    rw [hendOf]
    exact Tag.endOf_ne_unknownName _
  have hX := h.isBlockStart
  rw [← hname] at hX
  refine ⟨htags, hfirst, hlast, ?_, ?_, hname'⟩
  · exact (hopening.roles_of_raw (hraw h.opening_eq)).1.2 (TagTables.role_of_isBlockStart hX)
  · refine (hclosing.roles_of_raw (hraw h.closing_eq)).2.2 ?_
    rw [hname', TagTables.role_endOf hX]

/-- Unless the name of no tag opens a block, the first tag is read as the scan sees it. -/
theorem Tied.name_eq (h : b.Tied T opening closing inner)
    (hunknown : T.isBlockStart Tag.unknownName = false) (hread : opening.ReadAlike T) :
    opening.name = Tag.scannedName opening.raw := by
  rcases h.opening_eq with ⟨content, hraw⟩
  apply hread.name_eq_scannedName hraw
  intro hc
  have hX := h.isBlockStart
  rw [hc, hunknown] at hX
  cases hX

theorem Encloses.hasTags (h : b.Encloses T opening closing inner)
    (hunknown : T.isBlockStart Tag.unknownName = false) (hb : b.label.kind.isBlock = true)
    (hread : ∀ t ∈ b.tags, t.ReadAlike T) :
    opening.name = Tag.scannedName opening.raw ∧ b.HasTags opening (tagsAll inner) closing := by
  have hname : opening.name = Tag.scannedName opening.raw := by
    apply h.tied.name_eq hunknown
    apply hread
    rw [(h.tied.flanked.tags_eq hb).1]
    exact List.mem_cons_self
  exact ⟨hname, h.tied.hasTags hb hread hname⟩

/-- Behind pairing and settling, the tags around a block are paired if the tags of its body are
balanced. -/
theorem HasTags.pairedBlock_iff {n : Node} {r r₀ r' : Roster} {res : Pairing.Result} {i : TagId}
    (h : b.HasTags opening body closing) (hm : n.settleBlocks = .ok m)
    (ha : Pairing.Associated T r r₀ (List.range r.length) r' res)
    (hr : ∀ k ∈ List.range r.length, (r.tag k).Prepared T) (htags : m.tags = r'.map (·.toTag))
    (hb : (i, b) ∈ m.numbered 0) (hblock : b.label.kind.isBlock = true) :
    m.PairedBlock i (i + body.length + 1) b ↔ (Tag.brackets opening.name).Balanced body := by
  -- The tags of the block stand in a row among all tags, and its number says where.
  rcases exists_of_mem_numbered m 0 hb with ⟨pre, post, hsplit, hi⟩
  rw [Nat.zero_add] at hi
  subst hi
  rw [h.tags_eq, htags] at hsplit
  have hrow : r'.map (·.toTag) = pre ++ opening :: (body ++ closing :: post) := by
    rw [hsplit]
    simp
  have hX : Tag.blockOfEnd closing.name = opening.name := by
    rw [h.name_closing, Tag.blockOfEnd_endOf]
  have hroster : m.roster.map (·.toTag) = r'.map (·.toTag) := by
    rw [map_toTag_roster, htags]
  have hpaired := ha.paired_iff_balanced hr hrow h.isStart h.isEnd hX
  rw [← Roster.paired_congr hroster] at hpaired
  constructor
  · exact fun hm => hpaired.1 hm.paired
  · intro hbalanced
    rcases ha.isSuccess_of_balanced hr hrow h.isStart h.isEnd hX hbalanced with
      ⟨hopening, hclosing, hmatching⟩
    rcases Roster.tags_of_row (hroster.trans hrow) with ⟨hfirst, hlast⟩
    rcases Kind.exists_of_isBlock hblock with ⟨name, c, hk⟩
    refine ⟨hpaired.2 hbalanced, ?_, name, c, hk, ?_⟩
    · rw [hlast, hfirst]
      exact hmatching
    · -- The block takes over the outcome of its two tags.
      have hmem := mem_nodes_of_mem_numbered hb
      rcases exists_settle_eq_of_mem _ m hm b hmem name c opening hk h.first with ⟨c₀, rfl⟩
      refine isSuccess_settle_iff.2 ⟨hopening, ?_⟩
      intro t ht
      rw [h.last] at ht
      cases ht
      exact hclosing

/-- What the pairing of a document says about the block `b`, whose opening tag has the number `i`:
the tags around the body are paired if the tags of the body are balanced.  This is so if nothing in
the body hides a tag, and the tags of the body are read as the scan for the end of a block sees
them. -/
structure Matched (m : Node) (i : TagId) (b : Node) (opening : Tag) (body : List Tag)
    (closing : Tag) : Prop where
  hasTags : b.HasTags opening body closing
  pairedBlock_iff : m.PairedBlock i (i + body.length + 1) b ↔
    (Tag.brackets opening.name).Balanced body
  pairedBlock : (∀ l ∈ labelsAll b.children, l.Transparent) →
    (∀ u ∈ body, u.name = Tag.scannedName u.raw) → m.PairedBlock i (i + body.length + 1) b

end Node

/-- The blocks that splitting finds in a document of one text are those that pairing its tags finds,
wherever the body of a block is balanced. -/
theorem annotate_matched (source : Option Text) {n : Node} {t : Text} {position : Option Position}
    (h : n.HoldsOnly t position) (hp : ∀ p, position = some p → 0 ≤ p.start.offset) :
    ∃ m, annotate .standard source (some n) = .ok m ∧
      ∀ i b, (i, b) ∈ m.numbered 0 → b.label.kind.isBlock = true →
        ∃ opening body closing, m.Matched i b opening body closing := by
  have hunknown : TagTables.standard.isBlockStart Tag.unknownName = false := by decide
  have hannotate : ∃ m, annotate .standard source (some n) = .ok m := by
    rcases h.root with ⟨l, cs, rfl⟩
    exact exists_annotate .standard source h.annotatable
  rcases hannotate with ⟨m, hm⟩
  refine ⟨m, hm, ?_⟩
  intro i b hb hblock
  rcases exists_ok_of_bind hm with ⟨s, hs, hsettle⟩
  rcases h.of_segmentTree hp TagTables.literalBlocks_standard hs with ⟨hfound, hordered, hencloses⟩
  rcases exists_associated_of_annotate hm hs hfound hordered with
    ⟨hread, r, r₀, r', res, hassociated, hprepared, htags⟩
  -- The block was found by splitting, and is still written as it was then.
  have hbare : m.map Label.bare = s.map Label.bare := by
    rcases exists_segmentTree_of_annotate hm with ⟨s', hs', hbare, _⟩
    cases hs.symm.trans hs'
    exact hbare
  rcases Node.exists_mem_nodes_of_map_eq hbare (Node.mem_nodes_of_mem_numbered hb) with
    ⟨b₀, hb₀, heq⟩
  have hblock₀ : b₀.label.kind.isBlock = true := by
    have hlabel := congrArg (fun k : Node => k.label.kind.isBlock) heq
    simpa only [Node.label_map, Label.bare, Kind.isBlock_bare, hblock] using hlabel
  rcases hencloses b₀ hb₀ hblock₀ with ⟨opening₀, closing₀, inner₀, hencloses₀⟩
  rcases hencloses₀.of_bare heq.symm with ⟨opening, closing, inner, he⟩
  have hmem (u : Tag) (hu : u ∈ b.tags) : u ∈ m.tags := by
    rcases Node.exists_of_mem_numbered m 0 hb with ⟨pre, post, hsplit, _⟩
    rw [hsplit]
    exact List.mem_append_left _ (List.mem_append_right _ hu)
  rcases he.hasTags hunknown hblock fun u hu => hread u (hmem u hu) with ⟨hname, hhas⟩
  have hiff := hhas.pairedBlock_iff hsettle hassociated hprepared htags hb hblock
  refine ⟨opening, Node.tagsAll inner, closing, hhas, hiff, fun htransparent hnames => hiff.2 ?_⟩
  rw [hname]
  refine he.balanced_tags hunknown (fun k hk => htransparent k ?_) ?_ hnames
  · rcases he.children_eq with ⟨first, last, hchildren, _, _⟩
    rw [hchildren, Node.labelsAll, Node.labelsAll_append]
    exact List.mem_append_right _ (List.mem_append_left _ hk)
  · intro u hu
    refine hread u (hmem u ?_)
    rw [hhas.tags_eq]
    exact List.mem_cons_of_mem _ (List.mem_append_left _ hu)

/-- A block whose body prints a tag. -/
def printedTag : Text := "{% if a %}\x7b\x7b '{% if b %}' \x7d\x7d{% endif %}{% endif %}"

theorem annotate_matched_printedTag :
    (Node.branch { type := "root" } [.leaf { type := Label.textType, value := some printedTag }]
        ).HoldsOnly printedTag none ∧
      (∀ p : Position, none = some p → 0 ≤ p.start.offset) ∧
      ∃ m, annotate .standard none (some (.branch { type := "root" }
          [.leaf { type := Label.textType, value := some printedTag }])) = .ok m ∧
        ∀ i b, (i, b) ∈ m.numbered 0 → b.label.kind.isBlock = true →
          ∃ opening body closing, m.Matched i b opening body closing := by
  have hroot : ({ type := "root" } : Label).openText? = none := by
    refine Label.openText?_of_type_ne ?_
    change ("root" : Text) ≠ "text"
    decide
  have hholds : (Node.branch { type := "root" }
      [.leaf { type := Label.textType, value := some printedTag }]).HoldsOnly printedTag none := by
    refine ⟨⟨_, _, rfl⟩, [{ type := "root" }], [], rfl, ?_⟩
    intro l hl
    rw [List.mem_singleton.1 hl]
    exact ⟨hroot, rfl⟩
  have hplace : ∀ p : Position, none = some p → 0 ≤ p.start.offset := by
    intro p hp
    cases hp
  exact ⟨hholds, hplace, annotate_matched none hholds hplace⟩

end LiquidMarkdown
