import LiquidMarkdown.Proofs.Annotation.Bare
import LiquidMarkdown.Proofs.Document.SourceOrder
import LiquidMarkdown.Proofs.Pairing.Check
import LiquidMarkdown.Proofs.Pairing.Rows

/-!
# The tags of an annotated document

The tags of a document are found by splitting, read one by one, and then paired all at once.  This
file states:

* `Node.found_segmentAll`, `Node.filled_segmentAll` — splitting leaves nothing known about a
  construct but how it is written, and that is not nothing;
* `Node.roster_map_read` — reading a document reads its tags;
* `Tag.ReadAlike` — the name and the roles of a tag are what reading its text gives;
* `Pairing.run_associated` — pairing and checking the tags of a document pairs them;
* `exists_associated_of_annotate` — the tags of an annotated document were read and paired.
-/

namespace LiquidMarkdown

/-! ## Constructs that were found -/

/-- Nothing is known about the construct of a label but how it is written. -/
def Label.Found (l : Label) : Prop :=
  l.kind.bare = l.kind

/-- Splitting leaves nothing known about a construct but how it is written. -/
theorem Node.found_segmentAll {T : TagTables} {index : Option LineIndex} {ns ns' : List Node}
    (h : segmentAll T index ns = .ok ns') :
    (∀ l ∈ labelsAll ns, l.Found) → ∀ l ∈ labelsAll ns', l.Found := by
  refine segmentAll_labels ?_ h
  intro l t split _ ho hs
  refine labels_of_splitText (Label.eq_of_openText? ho).2.2 hs ?_
    fun start stop position raw _ _ => ⟨rfl, rfl, rfl⟩
  intro start u k hk
  rcases Placement.exists_of_textLabel hk with ⟨position, data, _, _, rfl⟩
  exact ⟨rfl, rfl⟩

theorem Label.found_of_plain {l : Label} (h : l.kind = .plain) : l.Found := by
  rw [Found, h]
  rfl

/-- So it is with every construct that splitting finds in a document without any. -/
theorem Node.found_of_segmentTree {T : TagTables} {index : Option LineIndex} {n s : Node}
    (hn : n.Plain) (h : segmentTree T index (some n) = .ok s) : ∀ l ∈ s.labels, l.Found :=
  forall_labels_of_segmentTree (fun _ hl => Label.found_of_plain hl) found_segmentAll hn h

/-- The construct of a label, if it is one, is written as some text. -/
def Label.Filled (l : Label) : Prop :=
  ∀ c, l.kind.construct? = some c → c.raw ≠ []

theorem Label.filled_of_plain {l : Label} (h : l.kind = .plain) : l.Filled := by
  intro c hc
  rw [h] at hc
  cases hc

/-- Splitting finds no construct that is written as nothing. -/
theorem Node.filled_segmentAll {T : TagTables} {index : Option LineIndex} {ns ns' : List Node}
    (h : segmentAll T index ns = .ok ns') :
    (∀ l ∈ labelsAll ns, l.Filled) → ∀ l ∈ labelsAll ns', l.Filled := by
  refine segmentAll_labels ?_ h
  intro l t split _ ho hs
  refine labels_of_splitText (Label.eq_of_openText? ho).2.2 hs ?_ ?_
  · intro start u k hk
    rcases Placement.exists_of_textLabel hk with ⟨position, data, _, _, rfl⟩
    exact ⟨Label.filled_of_plain rfl, Label.filled_of_plain rfl⟩
  · intro start stop position raw hraw _
    have hfilled (l : Label) (hl : l.kind.construct? = some { raw := raw }) : l.Filled := by
      intro c hc
      rw [hl] at hc
      cases hc
      exact hraw
    exact ⟨hfilled _ rfl, hfilled _ rfl, hfilled _ rfl⟩

/-! ## Reading -/

namespace Tag

/-- A tag with a text is given the name and the roles that its text says. -/
theorem exists_read_eq (T : TagTables) {t : Tag} (h : t.raw ≠ []) :
    ∃ c : Construct, c.raw = t.raw ∧
      t.read T = { t.withRole T (nameOf (Delimiters.tag.strip t.raw)) with toConstruct := c } := by
  unfold read
  rw [if_neg h]
  dsimp only
  split
  · refine ⟨Tag.toConstruct (Tag.fail _ _ _), ?_, rfl⟩
    rfl
  · split
    · refine ⟨Tag.toConstruct (Tag.succeed _ _), ?_, rfl⟩
      rfl
    · refine ⟨Tag.toConstruct (Tag.fail _ _ _), ?_, rfl⟩
      rfl

theorem raw_read (T : TagTables) (t : Tag) : (t.read T).raw = t.raw := by
  by_cases h : t.raw = []
  · rw [read, if_pos h]
  · rcases exists_read_eq T h with ⟨c, hraw, hread⟩
    rw [hread]
    exact hraw

/-- Reading a tag does not pair it. -/
theorem blockId_read (T : TagTables) (t : Tag) : (t.read T).blockId = t.blockId := by
  unfold read
  split
  · rfl
  · dsimp only
    split
    · rfl
    · split
      · rfl
      · rfl

/-- The name and the roles of the tag are what reading its text gives. -/
def ReadAlike (T : TagTables) (t : Tag) : Prop :=
  t.reset = (read T { raw := t.raw }).reset

namespace ReadAlike

variable {T : TagTables} {t : Tag}

/-- Whatever does not read how reading and pairing came out is what reading the text gives. -/
theorem field {α : Type} (h : t.ReadAlike T) (g : Tag → α) (hg : ∀ u : Tag, g u.reset = g u) :
    g t = g (read T { raw := t.raw }) := by
  rw [← hg t, h, hg]

theorem name_eq (h : t.ReadAlike T) (hraw : t.raw ≠ []) :
    t.name = nameOf (Delimiters.tag.strip t.raw) := by
  rcases exists_read_eq T (t := { raw := t.raw }) hraw with ⟨c, _, hread⟩
  rw [h.field Tag.name fun _ => rfl, hread]
  rfl

/-- A tag with a text opens a block if its name does, and closes one if its name does. -/
theorem roles_of_raw (h : t.ReadAlike T) (hraw : t.raw ≠ []) :
    (t.isStart = true ↔ T.role t.name = .blockStart) ∧
      (t.isEnd = true ↔ T.role t.name = .blockEnd) := by
  rcases exists_read_eq T (t := { raw := t.raw }) hraw with ⟨c, _, hread⟩
  rw [h.field Tag.name fun _ => rfl, h.field Tag.isStart fun _ => rfl,
    h.field Tag.isEnd fun _ => rfl, hread]
  exact ⟨beq_iff_eq, beq_iff_eq⟩

/-- So does any tag, unless the name of no tag opens a block. -/
theorem roles (h : t.ReadAlike T) (hunknown : T.isBlockStart unknownName = false) :
    (t.isStart = true ↔ T.role t.name = .blockStart) ∧
      (t.isEnd = true ↔ T.role t.name = .blockEnd) := by
  by_cases hraw : t.raw = []
  · -- A tag without a text has neither a name nor a role.
    have hread : read T { raw := t.raw } = { raw := t.raw } := by
      rw [read, if_pos hraw]
    have hend : T.isBlockEnd unknownName = false := by
      have hprefix : Text.dropPrefix? endPrefix unknownName = none := by decide
      rw [TagTables.isBlockEnd, hprefix]
    have hrole : T.role unknownName ≠ .blockStart ∧ T.role unknownName ≠ .blockEnd := by
      unfold TagTables.role
      rw [hunknown, hend]
      by_cases hc : T.isContinuation unknownName = true
      · simp [hc]
      · simp [hc]
    rw [h.field Tag.name fun _ => rfl, h.field Tag.isStart fun _ => rfl,
      h.field Tag.isEnd fun _ => rfl, hread]
    constructor
    · exact ⟨fun hs => absurd hs Bool.false_ne_true, fun hs => absurd hs hrole.1⟩
    · exact ⟨fun he => absurd he Bool.false_ne_true, fun he => absurd he hrole.2⟩
  · exact h.roles_of_raw hraw

end ReadAlike
end Tag

theorem Label.tag?_read (T : TagTables) (l : Label) :
    (l.read T).kind.tag? = l.kind.tag?.map (Tag.read T) := by
  cases hk : l.kind with
  | plain | expression _ | tag _ | block _ _ => simp [Label.read, hk, Kind.tag?]

theorem Label.position_read (T : TagTables) (l : Label) : (l.read T).position = l.position := by
  cases hk : l.kind with
  | plain | expression _ | tag _ | block _ _ => simp [Label.read, hk]

namespace Node

/-- Reading a document reads its tags. -/
theorem roster_map_read (T : TagTables) (n : Node) :
    (n.map (Label.read T)).roster = n.roster.map (PlacedTag.mapTag (Tag.read T)) := by
  simp only [roster, tagLabels, labels_map, List.filterMap_map, List.map_filterMap]
  congr 1
  funext l
  rw [Function.comp_apply, Label.tag?_read]
  cases l.kind.tag? with
  | none => rfl
  | some t =>
      simp only [Option.map_some, Label.position_read]
      rfl

/-- Every tag of a document that was read was found in a text. -/
theorem exists_read_of_mem_roster {T : TagTables} {s : Node} {t : PlacedTag}
    (hf : ∀ l ∈ s.labels, l.Found) (ht : t ∈ (s.map (Label.read T)).roster) :
    ∃ raw, (∃ l ∈ s.labels, l.kind = .tag { raw := raw }) ∧
      t.toTag = Tag.read T { raw := raw } := by
  rw [roster_map_read] at ht
  rcases List.mem_map.1 ht with ⟨u, hu, rfl⟩
  rw [roster_eq_filterMap] at hu
  rcases List.mem_filterMap.1 hu with ⟨l, hl, hlu⟩
  rcases Option.map_eq_some_iff.1 hlu with ⟨v, hv, rfl⟩
  have hkind := Kind.eq_tag_of_tag? hv
  have hbare := hf l hl
  rw [Label.Found, hkind] at hbare
  have hv : { raw := v.raw } = v := Kind.tag.inj hbare
  refine ⟨v.raw, ⟨l, hl, by rw [hv, hkind]⟩, ?_⟩
  rw [hv]
  rfl

end Node

/-! ## Pairing -/

namespace Pairing

variable {T : TagTables} {r : Roster}

/-- The check has nothing to mark, so it hands on the roster as it was paired. -/
theorem checked_run (hr : ∀ i ∈ List.range r.length, (r.tag i).SingleRole)
    (hs : ∀ i, (r.tag i).Settled) :
    (run T r).checked = (associate T {} r (List.range r.length)).1 := by
  have hassociated := associated_of_singleRole (T := T) {} List.nodup_range
    (fun i => List.mem_range.1) hr
  have hcheck := hassociated.check_eq (fun i hi => hr i (Roster.mem_inDocumentOrder.1 hi))
    (fun i _ => settled_fresh (hs i)) fun i hi => Roster.mem_inDocumentOrder.2 hi
  exact congrArg Prod.fst hcheck

/-- Pairing and checking tags that are numbered in the order of their offsets pairs them, and the
check changes nothing. -/
theorem run_associated (hp : ∀ i ∈ List.range r.length, (r.tag i).Prepared T)
    (hs : ∀ i, (r.tag i).Settled) (ho : r.Ordered) :
    Associated T r (fresh r (List.range r.length)) (List.range r.length) (run T r).checked
      (run T r).result := by
  have hassociated := associated_associate {} List.nodup_range (fun i => List.mem_range.1) hp
  rw [ho.inDocumentOrder_range] at hassociated
  rw [checked_run (fun i hi => (hp i hi).singleRole) hs]
  exact hassociated

end Pairing

/-- The tags of an annotated document are the tags that splitting found, read and paired. -/
theorem exists_associated_of_annotate {T : TagTables} {source : Option Text} {n m s : Node}
    (h : annotate T source (some n) = .ok m)
    (hs : segmentTree T (source.map .ofText) (some n) = .ok s) (hf : ∀ l ∈ s.labels, l.Found)
    (ho : s.roster.Ordered) :
    (∀ t ∈ m.tags, t.ReadAlike T) ∧ ∃ r r₀ r' res,
      Pairing.Associated T r r₀ (List.range r.length) r' res ∧
      (∀ i ∈ List.range r.length, (r.tag i).Prepared T) ∧ m.tags = r'.map (·.toTag) := by
  rcases exists_segmentTree_of_annotate h with ⟨s', hs', _, htags⟩
  cases hs.symm.trans hs'
  have hread := Node.roster_map_read T s
  have hfound {t : PlacedTag} := Node.exists_read_of_mem_roster (T := T) (t := t) hf
  generalize (s.map (Label.read T)).roster = r at hread hfound htags
  have hmem {i : TagId} (hi : i ∈ List.range r.length) : r.tag i ∈ r :=
    Roster.tag_mem (List.mem_range.1 hi)
  have hprepared (i : TagId) (hi : i ∈ List.range r.length) : (r.tag i).Prepared T := by
    rcases hfound (hmem hi) with ⟨raw, _, ht⟩
    rw [ht]
    exact Tag.prepared_read T fun _ => rfl
  have hsettled (i : TagId) : (r.tag i).Settled := by
    by_cases hi : i < r.length
    · rcases hfound (hmem (List.mem_range.2 hi)) with ⟨raw, _, ht⟩
      rw [ht]
      exact Tag.settled_read T fun _ hsuccess => by cases hsuccess
    · rw [Roster.tag_of_length_le (Nat.le_of_not_lt hi)]
      intro hsuccess
      cases hsuccess
  have hordered : r.Ordered := hread ▸ ho.map _
  have hassociated := Pairing.run_associated hprepared hsettled hordered
  refine ⟨?_, r, _, _, _, hassociated, hprepared, htags⟩
  intro t ht
  rw [htags] at ht
  rcases List.mem_map.1 ht with ⟨u, hu, rfl⟩
  rcases List.getElem_of_mem hu with ⟨i, hi, rfl⟩
  rw [Roster.getElem_eq_tag hi]
  -- Pairing changes neither the text of a tag nor what was read from it.
  have hagree := hassociated.agree
  have hi' : i ∈ List.range r.length := by
    rw [List.mem_range, ← hagree.length_eq]
    exact hi
  rcases hfound (hmem hi') with ⟨raw, _, hr⟩
  have hreset := hagree.field (fun t => t.toTag.reset) (fun _ => rfl) i
  have hraw : (((Pairing.run T r).checked).tag i).raw = raw := by
    rw [hagree.raw, hr, Tag.raw_read]
  rw [Tag.ReadAlike, hreset, hr, hraw]

end LiquidMarkdown
