import LiquidMarkdown.Proofs.Annotation.Outcome
import LiquidMarkdown.Proofs.Document.Stability
import LiquidMarkdown.Proofs.Pairing.Repetition

/-!
# Annotating once more

An annotated document stays as it is when it is annotated again.  Its texts fall into themselves,
every construct is read as it was before, its tags are paired as they were, and its blocks take over
the same outcome.  This file states:

* `Tag.read_read`, `Label.read_read` — a construct that was read is read as before;
* `Tag.reset_read` — reading a tag goes by its text, and by nothing that pairing wrote into it;
* `settle_settle`, `Node.settleBlocks_settleBlocks` — so it is with a block that was settled;
* `Node.withTags_map_read` — a document is its reading, with its tags put back;
* `checked_run_read` — tags that were paired, and are read and paired again, come out the same;
* `annotate_annotate` — an annotated document is left as it is.
-/

namespace LiquidMarkdown

/-! ## Reading -/

namespace Construct

variable {c : Construct}

theorem readExpression_of_ok {t : Template} (h : c.raw ≠ []) (hp : Template.parse c.raw = .ok t) :
    c.readExpression = (c.withContent .expression).succeed (some (.template t)) := by
  have hraw : (c.withContent .expression).raw = c.raw := rfl
  simp only [readExpression, if_neg h, hraw, hp]

theorem readExpression_of_error {p : Template.Problem} (h : c.raw ≠ [])
    (hp : Template.parse c.raw = .error p) :
    c.readExpression = (c.withContent .expression).fail p.message "expression" none := by
  have hraw : (c.withContent .expression).raw = c.raw := rfl
  simp only [readExpression, if_neg h, hraw, hp]

/-- An expression that was read is read as before. -/
theorem readExpression_readExpression (c : Construct) :
    c.readExpression.readExpression = c.readExpression := by
  by_cases h : c.raw = []
  · have hread : c.readExpression = c := if_pos h
    rw [hread, hread]
  · cases hp : Template.parse c.raw with
    | ok t =>
        rw [readExpression_of_ok h hp]
        exact readExpression_of_ok h hp
    | error p =>
        rw [readExpression_of_error h hp]
        exact readExpression_of_error h hp

theorem withContent_withContent (d : Delimiters) (c : Construct) :
    (c.withContent d).withContent d = c.withContent d :=
  rfl

/-- The content of the block was read, and so was the name of its opening tag. -/
def BlockRead (name : Text) (c : Construct) : Prop :=
  c.raw = [] ∨ Tag.nameOf (Delimiters.tag.strip c.raw) = name ∧ c.withContent .tag = c

theorem readBlock_eq_iff {name : Text} : c.readBlock name = (name, c) ↔ c.BlockRead name := by
  unfold readBlock BlockRead
  split
  · next h => simp [h]
  · next h =>
      have hinner : (c.withContent .tag).inner.getD [] = Delimiters.tag.strip c.raw := rfl
      simp [h, hinner]

theorem blockRead_readBlock (name : Text) (c : Construct) :
    (c.readBlock name).2.BlockRead (c.readBlock name).1 := by
  unfold readBlock
  split
  · next h => exact .inl h
  · exact .inr ⟨rfl, withContent_withContent _ c⟩

end Construct

namespace Tag

variable {T : TagTables} {t : Tag}

/-- The tag with its content, its name and its roles. -/
def identified (T : TagTables) (t : Tag) : Tag :=
  ({ t with toConstruct := t.toConstruct.withContent .tag } : Tag).withRole T
    (nameOf (Delimiters.tag.strip t.raw))

theorem read_of_hasBlockRole (h : t.raw ≠ []) (hrole : (t.identified T).hasBlockRole = true) :
    t.read T = (t.identified T).fail (t.identified T).unpairedMessage kindName := by
  unfold identified at hrole ⊢
  simp only [read, if_neg h, hrole, if_true]

theorem read_of_ok {u : Template} (h : t.raw ≠ []) (hrole : (t.identified T).hasBlockRole = false)
    (hp : Template.parse (readable (Delimiters.tag.strip t.raw)) = .ok u) :
    t.read T = (t.identified T).succeed (some (.template u)) := by
  unfold identified at hrole ⊢
  simp only [read, if_neg h, hrole, hp, Bool.false_eq_true, if_false]

theorem read_of_error {p : Template.Problem} (h : t.raw ≠ [])
    (hrole : (t.identified T).hasBlockRole = false)
    (hp : Template.parse (readable (Delimiters.tag.strip t.raw)) = .error p) :
    t.read T = (t.identified T).fail p.message kindName := by
  unfold identified at hrole ⊢
  simp only [read, if_neg h, hrole, hp, Bool.false_eq_true, if_false]

/-- A tag that was read is read as before. -/
theorem read_read (T : TagTables) (t : Tag) : (t.read T).read T = t.read T := by
  by_cases h : t.raw = []
  · have hread : t.read T = t := if_pos h
    rw [hread, hread]
  · cases hrole : (t.identified T).hasBlockRole with
    | true =>
        rw [read_of_hasBlockRole h hrole]
        exact read_of_hasBlockRole h hrole
    | false =>
        cases hp : Template.parse (readable (Delimiters.tag.strip t.raw)) with
        | ok u =>
            rw [read_of_ok h hrole hp]
            exact read_of_ok h hrole hp
        | error p =>
            rw [read_of_error h hrole hp]
            exact read_of_error h hrole hp

/-- But for how it came out, what reading makes of a tag with a text goes by the text. -/
theorem reset_read (T : TagTables) (h : t.raw ≠ []) :
    (t.read T).reset = (identified T { raw := t.raw }) := by
  cases hrole : (t.identified T).hasBlockRole with
  | true =>
      rw [read_of_hasBlockRole h hrole]
      rfl
  | false =>
      cases hp : Template.parse (readable (Delimiters.tag.strip t.raw)) with
      | ok u =>
          rw [read_of_ok h hrole hp]
          rfl
      | error p =>
          rw [read_of_error h hrole hp]
          rfl

/-- A tag that agrees with one that was read is read like it. -/
theorem reset_read_of_reset_eq {u : Tag} (h : t.reset = (u.read T).reset) :
    (t.read T).reset = (u.read T).reset := by
  have hraw : t.raw = u.raw := (congrArg (fun v : Tag => v.raw) h).trans (raw_read T u)
  by_cases hu : u.raw = []
  · have hread : t.read T = t := if_pos (hraw.trans hu)
    rw [hread, h]
  · rw [reset_read T hu, reset_read T (hraw ▸ hu), hraw]

/-- To clear the error of a tag that was read makes no difference to reading it. -/
theorem read_clearError_read (T : TagTables) (t : Tag) :
    (Pairing.clearError (t.read T)).read T = Pairing.clearError (t.read T) := by
  by_cases h : t.raw = []
  · have hread : t.read T = t := if_pos h
    rcases Pairing.exists_clearError_eq t with ⟨e, he⟩
    rw [hread, he]
    exact if_pos h
  · have hsettled := Settled.of_decided (decided_read T h)
    rw [Pairing.clearError_eq_self hsettled, read_read]

end Tag

/-- A construct that was read is read as before. -/
theorem Label.read_read (T : TagTables) (l : Label) : (l.read T).read T = l.read T := by
  cases l with
  | mk type value position data kind =>
      cases kind with
      | plain => rfl
      | expression c => simp only [read, c.readExpression_readExpression]
      | tag t => simp only [read, t.read_read]
      | block name c =>
          have hread := Construct.readBlock_eq_iff.2 (c.blockRead_readBlock name)
          simp only [read, hread]

/-! ## Settling -/

section

variable {name : Text} {c d : Construct} {opening : Tag} {closing : Option Tag}

/-- Settling reads how a block is written, and changes its outcome and its id. -/
theorem settle_congr (hraw : d.raw = c.raw) (hinner : d.inner = c.inner) :
    settle name d opening closing =
      { d with
        outcome := (settle name c opening closing).outcome
        error := (settle name c opening closing).error
        parsed := (settle name c opening closing).parsed
        blockId := (settle name c opening closing).blockId } := by
  unfold settle
  cases (opening :: closing.toList).find? fun t => !t.isSuccess with
  | none => rfl
  | some t => simp only [Construct.fail, hraw, hinner]

/-- A block that was settled is settled as before. -/
theorem settle_settle (name : Text) (c : Construct) (opening : Tag) (closing : Option Tag) :
    settle name (settle name c opening closing) opening closing =
      settle name c opening closing := by
  have hsettle : settle name c opening closing = _ := settle_congr rfl rfl
  have hraw := congrArg Construct.raw hsettle
  have hinner := congrArg Construct.inner hsettle
  exact settle_congr hraw hinner

/-- A block that is settled stays read. -/
theorem Construct.BlockRead.settle (h : c.BlockRead name) :
    (LiquidMarkdown.settle name c opening closing).BlockRead name := by
  rw [settle_congr (d := c) rfl rfl]
  rcases h with h | ⟨hname, hcontent⟩
  · exact .inl h
  · refine .inr ⟨hname, ?_⟩
    rw [← hcontent]
    rfl

end

/-- A label that was settled by its tags is settled as before by the same tags. -/
theorem Label.settle_settle {l : Label} {cs cs' : List Node}
    (hfirst : openingTag? cs' = openingTag? cs)
    (hlast : closingTag? cs' = closingTag? cs) : (l.settle cs).settle cs' = l.settle cs := by
  cases ho : openingTag? cs with
  | none =>
      have hkeep (k : Label) {ds : List Node} (hds : openingTag? ds = none) : k.settle ds = k := by
        unfold settle
        rw [hds]
        cases k.kind with
        | plain | expression _ | tag _ | block _ _ => rfl
      rw [hkeep l ho, hkeep l (hfirst.trans ho)]
  | some opening =>
      cases hk : l.kind with
      | block name c =>
          have hsettle : l.settle cs = { l with
              kind := .block name (LiquidMarkdown.settle name c opening (closingTag? cs)) } := by
            simp only [settle, hk, ho]
          rw [hsettle]
          simp only [settle, hfirst, hlast, ho, LiquidMarkdown.settle_settle]
      | plain | expression _ | tag _ =>
          have hkeep (ds : List Node) : l.settle ds = l := by simp only [settle, hk]
          rw [hkeep, hkeep]

namespace Node

mutual

/-- A tree that was settled is settled as before. -/
theorem settleBlocks_settleBlocks : ∀ (n m : Node), n.settleBlocks = .ok m → m.settleBlocks = .ok m
  | branch l cs, m, h => by
      rcases settleBlocks_branch_eq_ok_iff.1 h with ⟨cs', hcs, rfl⟩
      -- The tags by which a block is settled are no blocks, so they were left alone.
      rcases openingTag?_closingTag?_congr (map_tag?_settleBlocksAll hcs) with ⟨hfirst, hlast⟩
      refine settleBlocks_branch_eq_ok_iff.2 ⟨cs', settleBlocksAll_settleBlocksAll cs cs' hcs, ?_⟩
      rw [Label.settle_settle hfirst hlast]
  | stub l, m, h => by
      rcases settleBlocks_stub_eq_ok_iff.1 h with ⟨hk, rfl⟩
      exact settleBlocks_stub_eq_ok_iff.2 ⟨hk, rfl⟩

theorem settleBlocksAll_settleBlocksAll : ∀ ns ms : List Node, settleBlocksAll ns = .ok ms →
    settleBlocksAll ms = .ok ms
  | [], ms, h => by
      cases h
      rfl
  | n :: ns, ms, h => by
      rcases settleBlocksAll_cons_eq_ok_iff.1 h with ⟨m, rest, hm, hr, rfl⟩
      exact settleBlocksAll_cons_eq_ok_iff.2 ⟨m, rest, settleBlocks_settleBlocks n m hm,
        settleBlocksAll_settleBlocksAll ns rest hr, rfl⟩

end

end Node

/-! ## Labels that were read -/

/-- The label was read, unless it is one of a tag. -/
def Label.WasRead (T : TagTables) (l : Label) : Prop :=
  l.kind.tag? = none → l.read T = l

theorem Label.WasRead.settle {T : TagTables} {l : Label} (h : l.WasRead T) (cs : List Node) :
    (l.settle cs).WasRead T := by
  unfold Label.settle
  split
  · next name c opening hk ho =>
      intro _
      have hread := h (by rw [hk]; rfl)
      simp only [Label.read, hk] at hread
      have hblock : c.BlockRead name := by
        rw [← Construct.readBlock_eq_iff]
        have hkind := congrArg Label.kind hread
        rw [hk] at hkind
        exact Prod.ext (Kind.block.inj hkind).1 (Kind.block.inj hkind).2
      have hsettled : (LiquidMarkdown.settle name c opening (closingTag? cs)).BlockRead name :=
        hblock.settle
      simp only [Label.read, Construct.readBlock_eq_iff.2 hsettled]
  · exact h

namespace Node

variable {T : TagTables}

mutual

/-- Settling leaves labels that were read as they would be read again. -/
theorem wasRead_settleBlocks : ∀ n m : Node, n.settleBlocks = .ok m →
    (∀ l ∈ n.labels, l.WasRead T) → ∀ l ∈ m.labels, l.WasRead T
  | branch l cs, m, h, hread => by
      rcases settleBlocks_branch_eq_ok_iff.1 h with ⟨cs', hcs, rfl⟩
      rcases forall_labels_branch.1 hread with ⟨hl, hbelow⟩
      exact forall_labels_branch.2 ⟨hl.settle cs, wasRead_settleBlocksAll cs cs' hcs hbelow⟩
  | stub l, m, h, hread => by
      rcases settleBlocks_stub_eq_ok_iff.1 h with ⟨_, rfl⟩
      exact hread

theorem wasRead_settleBlocksAll : ∀ ns ms : List Node, settleBlocksAll ns = .ok ms →
    (∀ l ∈ labelsAll ns, l.WasRead T) → ∀ l ∈ labelsAll ms, l.WasRead T
  | [], ms, h, hread => by
      cases h
      exact hread
  | n :: ns, ms, h, hread => by
      rcases settleBlocksAll_cons_eq_ok_iff.1 h with ⟨m, rest, hm, hr, rfl⟩
      rcases forall_labelsAll_cons.1 hread with ⟨hfirst, hbelow⟩
      exact forall_labelsAll_cons.2
        ⟨wasRead_settleBlocks n m hm hfirst, wasRead_settleBlocksAll ns rest hr hbelow⟩

end

theorem replaceTag_read {l : Label} (h : l.WasRead T) (ts : List Tag) :
    replaceTag (l.kind.tag?.toList ++ ts) (l.read T) = (l, ts) := by
  cases l with
  | mk type value position data kind =>
      cases kind with
      | tag t => rfl
      | plain | expression _ | block _ _ =>
          rw [h rfl]
          rfl

mutual

/-- A document whose other constructs were read is its reading, with its tags put back. -/
theorem withTags_map_read : ∀ (n : Node) (ts : List Tag), (∀ l ∈ n.labels, l.WasRead T) →
    (n.map (Label.read T)).withTags (n.tags ++ ts) = (n, ts)
  | branch l cs, ts, h => by
      rcases forall_labels_branch.1 h with ⟨hl, hbelow⟩
      rw [tags_branch, List.append_assoc]
      simp only [map, withTags, replaceTag_read hl, withTagsAll_mapAll_read cs ts hbelow]
  | stub l, ts, h => by
      rw [tags_stub]
      simp only [map, withTags, replaceTag_read (h l List.mem_cons_self)]

theorem withTagsAll_mapAll_read : ∀ (ns : List Node) (ts : List Tag),
    (∀ l ∈ labelsAll ns, l.WasRead T) →
      withTagsAll (tagsAll ns ++ ts) (mapAll (Label.read T) ns) = (ns, ts)
  | [], ts, _ => rfl
  | c :: cs, ts, h => by
      rcases forall_labelsAll_cons.1 h with ⟨hc, hcs⟩
      rw [tagsAll_cons, List.append_assoc]
      simp only [mapAll, withTagsAll, withTags_map_read c _ hc, withTagsAll_mapAll_read cs ts hcs]

end

/-- Reading and pairing leave labels as they would be read again. -/
theorem wasRead_pairTags (T : TagTables) (n : Node) :
    ∀ l ∈ ((n.map (Label.read T)).pairTags T).labels, l.WasRead T := by
  refine (forall_labels_withTags (P := fun _ => True) ?_ _ _ ?_ fun _ _ => trivial).1
  · intro l t u _ _ htag
    cases htag
  · intro l hl _
    rw [labels_map] at hl
    rcases List.mem_map.1 hl with ⟨k, _, rfl⟩
    exact k.read_read T

end Node

/-! ## Pairing -/

namespace Pairing

/-- Tags that were read, paired and checked, and are read, paired and checked again, come out the
same. -/
theorem checked_run_read (T : TagTables) (r : Roster) :
    (run T ((run T (r.map (PlacedTag.mapTag (Tag.read T)))).checked.map
      (PlacedTag.mapTag (Tag.read T)))).checked =
        (run T (r.map (PlacedTag.mapTag (Tag.read T)))).checked := by
  have hread (s : Roster) (i : TagId) : Roster.tag (s.map (PlacedTag.mapTag (Tag.read T))) i =
      (s.tag i).mapTag (Tag.read T) :=
    Roster.tag_map rfl s i
  have hagree := agree_run T (r.map (PlacedTag.mapTag (Tag.read T)))
  refine checked_run_congr T ?_ ?_
  · refine Roster.Agree.of_tag ?_ ?_ ?_
    · rw [List.length_map, hagree.length_eq]
    · intro i
      have hreset := hagree.field (fun t => t.toTag.reset) (fun _ => rfl) i
      rw [hread] at hreset
      rw [hread, hread]
      exact Tag.reset_read_of_reset_eq hreset
    · intro i
      have hposition := hagree.field (fun t => t.position) (fun _ => rfl) i
      rw [hread]
      exact hposition
  · intro i hi
    rw [hread, tag_checked_of_bystander T hi, hread]
    simp only [PlacedTag.mapTag, Tag.read_clearError_read]

end Pairing

/-! ## The whole -/

/-- A roster is given by its tags and their positions. -/
theorem Roster.ext_toTag {r r' : Roster} (htags : r.map (·.toTag) = r'.map (·.toTag))
    (hpositions : r.map (·.position) = r'.map (·.position)) : r = r' := by
  induction r generalizing r' with
  | nil =>
      cases r' with
      | nil => rfl
      | cons t' r' => cases htags
  | cons t r ih =>
      cases r' with
      | nil => cases htags
      | cons t' r' =>
          rw [List.map_cons, List.map_cons, List.cons.injEq] at htags hpositions
          rcases t with ⟨tag, position⟩
          rcases t' with ⟨tag', position'⟩
          have htag : tag = tag' := htags.1
          have hposition : position = position' := hpositions.1
          rw [ih htags.2 hpositions.2, htag, hposition]

/-- An annotated document is left as it is when it is annotated again, and none of its texts gives
way. -/
theorem annotate_annotate {T : TagTables} {source : Option Text} {n : Option Node} {m : Node}
    (h : annotate T source n = .ok m) :
    segmentTree T (source.map .ofText) (some m) = .ok m ∧ m.splitCount T = 0 ∧
      annotate T source (some m) = .ok m := by
  cases n with
  | none => cases h
  | some n =>
      rcases exists_ok_of_bind h with ⟨s, hs, hsettle⟩
      rcases exists_segmentTree_of_annotate h with ⟨s', hs', hbare, htags⟩
      cases hs.symm.trans hs'
      rcases segmentTree_segmentTree hs hbare with ⟨hstays, hcount⟩
      refine ⟨hstays, hcount, ?_⟩
      have hread : ∀ l ∈ m.labels, l.WasRead T :=
        Node.wasRead_settleBlocks _ m hsettle (Node.wasRead_pairTags T s)
      -- The tags of the document are those of the checked pairing, in the places of the split tree.
      have hroster : m.roster = (Pairing.run T (s.map (Label.read T)).roster).checked := by
        have hagree := Pairing.agree_run T (s.map (Label.read T)).roster
        refine Roster.ext_toTag ((Node.map_toTag_roster m).trans htags) ?_
        calc
          m.roster.map (·.position)
              = s.roster.map (·.position) := Node.positions_roster_of_map_bare hbare
          _ = (s.map (Label.read T)).roster.map (·.position) :=
                (Node.positions_roster_of_map_bare (Node.map_bare_map (Label.bare_read T) s)).symm
          _ = (Pairing.run T (s.map (Label.read T)).roster).checked.map (·.position) :=
                hagree.map_position.symm
      have hagain : (m.map (Label.read T)).pairTags T = m := by
        have hrun : (Pairing.run T (m.map (Label.read T)).roster).checked = m.roster := by
          rw [Node.roster_map_read, hroster, Node.roster_map_read, Pairing.checked_run_read]
        have hback := Node.withTags_map_read m [] hread
        rw [List.append_nil] at hback
        rw [Node.pairTags, hrun, Node.withRoster, Node.map_toTag_roster, hback]
      have hsettled := Node.settleBlocks_settleBlocks _ m hsettle
      rw [annotate]
      simp only [hstays, bind, Except.bind, hagain, hsettled]

/-- A paragraph with a block in the body of another, literal text, a tag without an end, and a
closing tag that was paired elsewhere before. -/
def touchedParagraph : Node :=
  .branch { type := "root" } [.branch { type := "paragraph" } [
    .leaf {
      type := Label.textType
      value := some
        "{% if a %}{% for b %}{{ b }}{% endfor %}{% endif %}{% raw %}{{ c }}{% endraw %} \x7b% d" },
    .leaf {
      type := Label.tagType
      value := some "{% endfor %}"
      kind := .tag {
        raw := "{% endfor %}"
        outcome := .success
        blockId := some "for-7"
        matchingId := some "for-7"
        related := [3] } }]]

theorem annotate_annotate_touchedParagraph : ∃ m,
    annotate .standard (some "a") (some touchedParagraph) = .ok m ∧
      segmentTree .standard ((some "a" : Option Text).map .ofText) (some m) = .ok m ∧
      m.splitCount .standard = 0 ∧ annotate .standard (some "a") (some m) = .ok m := by
  have hplain : ∀ l ∈ touchedParagraph.labels, l.data = [] := by
    simp [touchedParagraph, Node.leaf, Node.labels, Node.labelsAll]
  have hannotatable : touchedParagraph.Annotatable := by
    constructor
    · intro l hl t m _ hm
      rw [hplain l hl] at hm
      cases hm
    · intro l hl
      simp [touchedParagraph, Node.leaf, Node.nodes, Node.nodesAll] at hl
  rcases exists_annotate .standard (some "a") hannotatable with ⟨m, hm⟩
  exact ⟨m, hm, annotate_annotate hm⟩

end LiquidMarkdown
