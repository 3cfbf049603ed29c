import LiquidMarkdown.Proofs.Annotation.Pairing
import LiquidMarkdown.Proofs.Annotation.Settling
import LiquidMarkdown.Proofs.Document.Numbering
import LiquidMarkdown.Proofs.Pairing.Accounting

/-!
# The outcome of annotating

Every construct of an annotated document was read, or has failed with an error that says something.
Expressions and tags that stand alone are decided when they are read, the tags of blocks when they
are paired, and blocks when they are settled.  This file states:

* `Template.Problem.message_ne_nil` — every problem of a template has a wording;
* `Construct.decided_readExpression`, `Tag.decided_read` — reading decides a construct;
* `Node.forall_labels_withTags`, `Node.mem_labels_of_settleBlocks` — what the later steps leave
  alone;
* `annotate_decided` — every construct of an annotated document is decided;
* `isSuccess_block_iff` — its blocks were read if the tags around them were.
-/

namespace LiquidMarkdown

/-! ## Problems of templates -/

/-- A list of texts that begins with one that is not empty does not come to nothing. -/
theorem Text.joinWith_ne_nil {t : Text} (h : t ≠ []) (sep : Text) (ts : List Text) :
    joinWith sep (t :: ts) ≠ [] := by
  cases ts with
  | nil => simpa [joinWith] using h
  | cons u ts =>
      rw [joinWith, List.intercalate_cons_cons, List.append_assoc]
      exact List.append_ne_nil_of_left_ne_nil h _

namespace Template

theorem EscapeProblem.message_ne_nil (e : EscapeProblem) : e.message ≠ [] := by
  cases e with
  | shortByte | shortUnit | shortCodePoint | outOfRange | malformedName | unknownName =>
      exact Text.ofString_ne_nil (by simp)

namespace Problem

theorem Cause.message_ne_nil (c : Cause) : c.message ≠ [] := by
  -- Messages are put together from left to right, and their first words are fixed.
  have hfirst {s : String} (hs : s ≠ "") (t : Text) := Text.ofString_append_ne_nil hs t
  have hmore {s : Text} (hs : s ≠ []) (t : Text) := List.append_ne_nil_of_left_ne_nil hs t
  cases c with
  | badEscape e => exact e.message_ne_nil
  | openBlock tag misnested wanted innermost =>
      refine Text.joinWith_ne_nil ?_ _ _
      cases tag with
      | none => exact Text.ofString_ne_nil (by simp)
      | some name => exact hmore (hfirst (by simp) _) _
  | strayBracket | unexpected | noExpression | hyphenInBlockName | notAssignable | leadingZero =>
      exact hfirst (by simp) _
  | expectedAtEnd => exact hmore (hfirst (by simp) _) _
  | strayCharacter | wrongBracket | expected => exact hmore (hmore (hfirst (by simp) _) _) _
  | longInteger | foreignDigit =>
      exact hmore (hmore (hmore (hfirst (by simp) _) _) _) _
  | openComment | openRaw | badIdentifier | badDecimal | noNameOrNumber | noTagName | noCall
  | badArguments | chainedTests | requiredBlockContent | privateImport | defaultOrder | stalled =>
      exact Text.ofString_ne_nil (by simp)

/-- Every problem of a template has a wording. -/
theorem message_ne_nil (p : Problem) : p.message ≠ [] :=
  p.cause.message_ne_nil

end Problem
end Template

/-! ## Reading -/

namespace Construct

/-- Reading a printed expression decides it. -/
theorem decided_readExpression {c : Construct} (h : c.raw ≠ []) : c.readExpression.Decided := by
  rw [readExpression, if_neg h]
  dsimp only
  split
  · exact decided_succeed _ _
  · exact decided_fail _ (Template.Problem.message_ne_nil _) _ _

end Construct

namespace Tag

theorem unpairedMessage_ne_nil (t : Tag) : t.unpairedMessage ≠ [] := by
  unfold unpairedMessage
  split <;> simp

/-- Reading a tag decides it; one that is part of a block has failed for now. -/
theorem decided_read (T : TagTables) {t : Tag} (h : t.raw ≠ []) : (t.read T).Decided := by
  rw [read, if_neg h]
  dsimp only
  split
  · exact Construct.decided_fail _ (unpairedMessage_ne_nil _) _ _
  · split
    · exact Construct.decided_succeed _ _
    · exact Construct.decided_fail _ (Template.Problem.message_ne_nil _) _ _

end Tag

namespace Label

/-- The construct of the label, if it is one, is decided. -/
def Decided (l : Label) : Prop :=
  ∀ c, l.kind.construct? = some c → c.Decided

/-- Reading decides every label but those of blocks. -/
theorem decided_read (T : TagTables) {l : Label} (h : l.Filled)
    (hb : (l.read T).kind.isBlock = false) : (l.read T).Decided := by
  intro c hc
  unfold read at hb hc
  cases hk : l.kind with
  | plain =>
      simp only [hk] at hc
      cases hc
  | expression e =>
      simp only [hk, Kind.construct?, Option.some.injEq] at hc
      subst hc
      exact Construct.decided_readExpression (h e (by rw [hk]; rfl))
  | tag t =>
      simp only [hk, Kind.construct?, Option.some.injEq] at hc
      subst hc
      exact Tag.decided_read T (h t.toConstruct (by rw [hk]; rfl))
  | block name e =>
      simp only [hk] at hb
      cases hb

end Label

/-! ## What pairing and settling leave alone -/

namespace Node

section

variable {Q : Label → Prop} {P : Tag → Prop}

theorem forall_replaceTag
    (hQ : ∀ (l : Label) (t u : Tag), l.kind = .tag t → P u → Q { l with kind := .tag u })
    {l : Label} {ts : List Tag} (hl : Q l) (hts : ∀ t ∈ ts, P t) :
    Q (replaceTag ts l).1 ∧ ∀ t ∈ (replaceTag ts l).2, P t := by
  unfold replaceTag
  split
  · next t u us hk =>
      rcases List.forall_mem_cons.1 hts with ⟨hu, hus⟩
      exact ⟨hQ l t u hk hu, hus⟩
  · exact ⟨hl, hts⟩

mutual

/-- What holds of all labels of a tree, and of a tag label with any of some tags, holds of all
labels when these tags are put in the place of those of the tree. -/
theorem forall_labels_withTags
    (hQ : ∀ (l : Label) (t u : Tag), l.kind = .tag t → P u → Q { l with kind := .tag u }) :
    ∀ (n : Node) (ts : List Tag), (∀ l ∈ n.labels, Q l) → (∀ t ∈ ts, P t) →
      (∀ l ∈ (n.withTags ts).1.labels, Q l) ∧ ∀ t ∈ (n.withTags ts).2, P t
  | branch l cs, ts, hl, hts => by
      rcases forall_labels_branch.1 hl with ⟨hroot, hbelow⟩
      rcases forall_replaceTag hQ hroot hts with ⟨hroot', hts'⟩
      -- The tags that the root leaves over go to its children.
      rcases forall_labelsAll_withTagsAll hQ cs _ hbelow hts' with ⟨hbelow', hrest⟩
      exact ⟨forall_labels_branch.2 ⟨hroot', hbelow'⟩, hrest⟩
  | stub l, ts, hl, hts => by
      rcases forall_replaceTag hQ (hl l List.mem_cons_self) hts with ⟨hroot', hts'⟩
      exact ⟨List.forall_mem_singleton.2 hroot', hts'⟩

theorem forall_labelsAll_withTagsAll
    (hQ : ∀ (l : Label) (t u : Tag), l.kind = .tag t → P u → Q { l with kind := .tag u }) :
    ∀ (ns : List Node) (ts : List Tag), (∀ l ∈ labelsAll ns, Q l) → (∀ t ∈ ts, P t) →
      (∀ l ∈ labelsAll (withTagsAll ts ns).1, Q l) ∧ ∀ t ∈ (withTagsAll ts ns).2, P t
  | [], ts, hl, hts => ⟨hl, hts⟩
  | c :: cs, ts, hl, hts => by
      rcases forall_labelsAll_cons.1 hl with ⟨hfirst, hcs⟩
      rcases forall_labels_withTags hQ c ts hfirst hts with ⟨hfirst', hts'⟩
      rcases forall_labelsAll_withTagsAll hQ cs _ hcs hts' with ⟨hcs', hrest⟩
      exact ⟨forall_labelsAll_cons.2 ⟨hfirst', hcs'⟩, hrest⟩

end

end

/-- Settling changes no label but those of blocks. -/
theorem settle_eq_self {l : Label} {cs : List Node} (h : (l.settle cs).kind.isBlock = false) :
    l.settle cs = l := by
  unfold Label.settle at h ⊢
  split at h
  · cases h
  · rfl

mutual

/-- A label behind settling that is no block was there before. -/
theorem mem_labels_of_settleBlocks : ∀ (n m : Node), n.settleBlocks = .ok m → ∀ l ∈ m.labels,
    l.kind.isBlock = false → l ∈ n.labels
  | branch l cs, m, h, k, hk, hb => by
      rcases settleBlocks_branch_eq_ok_iff.1 h with ⟨cs', hcs, rfl⟩
      rcases List.mem_cons.1 hk with rfl | hk
      · rw [settle_eq_self hb]
        exact List.mem_cons_self
      · exact List.mem_cons_of_mem _ (mem_labelsAll_of_settleBlocksAll cs cs' hcs k hk hb)
  | stub l, m, h, k, hk, hb => by
      rcases settleBlocks_stub_eq_ok_iff.1 h with ⟨_, rfl⟩
      exact hk

theorem mem_labelsAll_of_settleBlocksAll : ∀ (ns ms : List Node), settleBlocksAll ns = .ok ms →
    ∀ l ∈ labelsAll ms, l.kind.isBlock = false → l ∈ labelsAll ns
  | [], ms, h, k, hk, hb => by
      cases h
      exact hk
  | c :: cs, ms, h, k, hk, hb => by
      rcases settleBlocksAll_cons_eq_ok_iff.1 h with ⟨m, rest, hm, hr, rfl⟩
      rcases List.mem_append.1 hk with hk | hk
      · exact List.mem_append_left _ (mem_labels_of_settleBlocks c m hm k hk hb)
      · exact List.mem_append_right _ (mem_labelsAll_of_settleBlocksAll cs rest hr k hk hb)

end

end Node

/-! ## The whole -/

section

variable {T : TagTables} {source : Option Text} {n m : Node}

/-- Pairing and checking the tags that were found in texts decides them. -/
theorem Pairing.decided_run {s : Node} (hfound : ∀ l ∈ s.labels, l.Found)
    (hfilled : ∀ l ∈ s.labels, l.Filled) :
    (run T (s.map (Label.read T)).roster).checked.Decided := by
  have hread {i : TagId} (hi : i < (s.map (Label.read T)).roster.length) :=
    Node.exists_read_of_mem_roster hfound (Roster.tag_mem hi)
  apply decided_check
  apply decided_associate
  · intro i hi
    rcases hread (List.mem_range.1 hi) with ⟨raw, _, ht⟩
    rw [ht]
    exact (Tag.prepared_read T fun _ => rfl).singleRole
  · intro i hi
    rcases hread hi with ⟨raw, ⟨l, hl, hk⟩, ht⟩
    rw [ht]
    exact Tag.decided_read T (hfilled l hl { raw := raw } (by rw [hk]; rfl))

/-- Every construct of an annotated document was read, or has failed with an error that says
something. -/
theorem annotate_decided (hn : n.Plain) (h : annotate T source (some n) = .ok m) :
    ∀ l ∈ m.labels, l.Decided := by
  rcases exists_ok_of_bind h with ⟨s, hs, hsettle⟩
  have hfound := Node.found_of_segmentTree hn hs
  have hfilled : ∀ l ∈ s.labels, l.Filled :=
    Node.forall_labels_of_segmentTree (fun l hl => Label.filled_of_plain hl)
      Node.filled_segmentAll hn hs
  -- Reading decides all constructs but blocks, and pairing decides the tags anew.
  have hread : ∀ l ∈ (s.map (Label.read T)).labels, l.kind.isBlock = false → l.Decided := by
    rw [Node.labels_map]
    intro l hl hb
    rcases List.mem_map.1 hl with ⟨k, hk, rfl⟩
    exact Label.decided_read T (hfilled k hk) hb
  have hpaired : ∀ l ∈ ((s.map (Label.read T)).pairTags T).labels,
      l.kind.isBlock = false → l.Decided := by
    refine (Node.forall_labels_withTags (P := fun t => t.Decided) ?_ _ _ hread ?_).1
    · intro l t u _ hu _ c hc
      cases hc
      exact hu
    · intro t ht
      rcases List.mem_map.1 ht with ⟨u, hu, rfl⟩
      exact (Pairing.decided_run hfound hfilled).of_mem hu
  intro l hl
  by_cases hb : l.kind.isBlock = true
  · -- A block has a tag for its first child, and takes over an outcome.
    rw [Node.labels_eq_map_nodes] at hl
    rcases List.mem_map.1 hl with ⟨b, hbm, rfl⟩
    rcases exists_framed_of_annotate hn h b hbm hb with ⟨opening, closing, inner, hframed⟩
    rcases hframed.flanked.tags_eq hb with ⟨_, hfirst, _⟩
    rcases Kind.exists_of_isBlock hb with ⟨name, c, hk⟩
    rcases Node.exists_settle_eq_of_mem _ m hsettle b hbm name c opening hk hfirst with ⟨c₀, rfl⟩
    intro d hd
    rw [hk] at hd
    cases hd
    exact decided_settle _ _ _ _
  · have hno : l.kind.isBlock = false := Bool.eq_false_iff.2 hb
    exact hpaired l (Node.mem_labels_of_settleBlocks _ m hsettle l hl hno) hno

/-- A block of an annotated document was read if the tags around it were. -/
theorem isSuccess_block_iff (hn : n.Plain) (h : annotate T source (some n) = .ok m) {b : Node}
    (hb : b ∈ m.nodes) {name : Text} {c : Construct} (hk : b.label.kind = .block name c) :
    ∃ opening ∈ m.tags, ∃ closing ∈ m.tags,
      (c.isSuccess = true ↔ opening.isSuccess = true ∧ closing.isSuccess = true) := by
  rcases exists_ok_of_bind h with ⟨s, _, hsettle⟩
  have hblock : b.label.kind.isBlock = true := by
    rw [hk]
    rfl
  rcases exists_framed_of_annotate hn h b hb hblock with ⟨opening, closing, inner, hframed⟩
  rcases hframed.flanked.tags_eq hblock with ⟨htags, hfirst, hlast⟩
  have hmem {t : Tag} (ht : t ∈ b.tags) : t ∈ m.tags := Node.tags_subset_of_mem_nodes hb ht
  rw [htags] at hmem
  refine ⟨opening, hmem List.mem_cons_self, closing, ?_, ?_⟩
  · exact hmem (List.mem_cons_of_mem _ (List.mem_append_right _ List.mem_cons_self))
  · rcases Node.exists_settle_eq_of_mem _ m hsettle b hb name c opening hk hfirst with ⟨c₀, rfl⟩
    rw [isSuccess_settle_iff, hlast]
    simp

end

end LiquidMarkdown
