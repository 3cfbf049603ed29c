import LiquidMarkdown.Annotation.Annotate
import LiquidMarkdown.Proofs.Document.Tree
import LiquidMarkdown.Proofs.Pairing.Roster

/-!
# What annotating leaves alone

Only splitting changes the nodes of a document.  Reading, pairing and settling write what is known
about a construct into the nodes that are there.  This file defines:

* `Label.bare` — a label as if its construct was only just found;
* `Node.withTags_append`, `Node.withRoster_of_agree` — putting tags in the place of others;
* `Node.map_bare_settleBlocks` — settling blocks;
* `exists_segmentTree_of_annotate` — an annotated tree is the split tree, up to bare labels.
-/

namespace LiquidMarkdown

/-! ## Bare labels -/

namespace Kind

/-- The kind of node, where nothing is known about a construct but how it is written. -/
def bare : Kind → Kind
  | plain => plain
  | expression c => expression { raw := c.raw }
  | tag t => tag { raw := t.raw }
  | block _ c => block Tag.unknownName { raw := c.raw }

end Kind

namespace Label

/-- The label, where nothing is known about a construct but how it is written. -/
def bare (l : Label) : Label :=
  { l with kind := l.kind.bare }

theorem eq_of_bare {l l' : Label} (h : l.bare = l'.bare) :
    l.type = l'.type ∧ l.value = l'.value ∧ l.position = l'.position ∧ l.data = l'.data ∧
      l.kind.bare = l'.kind.bare := by
  simpa [bare] using h

theorem tag?_bare (l : Label) :
    l.bare.kind.tag? = l.kind.tag?.map fun t => ({ raw := t.raw } : Tag) := by
  cases hk : l.kind with
  | plain | expression _ | tag _ | block _ _ => simp [bare, hk, Kind.bare, Kind.tag?]

/-- Reading a construct sets no part of its label that is bare. -/
theorem bare_read (T : TagTables) (l : Label) : (l.read T).bare = l.bare := by
  -- None of the three ways to read touches the text of a construct.
  have hread (t : Tag) : (t.read T).raw = t.raw := by
    unfold Tag.read
    split
    · rfl
    · dsimp only
      split
      · rfl
      · split <;> rfl
  have hexpression (c : Construct) : c.readExpression.raw = c.raw := by
    unfold Construct.readExpression
    split
    · rfl
    · dsimp only
      split <;> rfl
  have hblock (name : Text) (c : Construct) : (c.readBlock name).2.raw = c.raw := by
    unfold Construct.readBlock
    split <;> rfl
  cases l with
  | mk type value position data kind =>
      cases kind with
      | plain => rfl
      | expression c => simp only [Label.read, bare, Kind.bare, hexpression]
      | tag t => simp only [Label.read, bare, Kind.bare, hread]
      | block name c => simp only [Label.read, bare, Kind.bare, hblock]

theorem bare_settle (l : Label) (cs : List Node) : (l.settle cs).bare = l.bare := by
  unfold Label.settle
  split
  · next name c opening hk ho =>
      have hraw : (LiquidMarkdown.settle name c opening (closingTag? cs)).raw = c.raw := by
        unfold LiquidMarkdown.settle
        dsimp only
        split <;> rfl
      simp only [bare, Kind.bare, hk, hraw]
  · rfl

end Label

namespace Node

/-- A map that is seen in no bare label is not seen in the bare tree. -/
theorem map_bare_map {f : Label → Label} (hf : ∀ l, (f l).bare = l.bare) (n : Node) :
    (n.map f).map Label.bare = n.map Label.bare := by
  rw [map_map]
  congr 1
  funext l
  exact hf l

/-! ## Tags -/

theorem replaceTag_append {l : Label} {ts : List Tag} (h : ts.length = l.kind.tag?.toList.length)
    (rest : List Tag) :
    ∃ l', replaceTag (ts ++ rest) l = (l', rest) ∧ l'.kind.tag?.toList = ts ∧
      (ts.map (·.raw) = l.kind.tag?.toList.map (·.raw) → l'.bare = l.bare) := by
  cases hk : l.kind with
  | tag t =>
      simp only [hk, Kind.tag?, Option.toList, List.length_cons, List.length_nil] at h
      rcases List.length_eq_one_iff.1 h with ⟨u, rfl⟩
      refine ⟨{ l with kind := .tag u }, by simp [replaceTag, hk], rfl, ?_⟩
      intro hraw
      have hu : u.raw = t.raw := by simpa [Kind.tag?] using hraw
      simp only [Label.bare, Kind.bare, hk, hu]
  | plain | expression _ | block _ _ =>
      simp only [hk, Kind.tag?, Option.toList, List.length_nil, List.length_eq_zero_iff] at h
      subst h
      exact ⟨l, by simp [replaceTag, hk], by simp [hk, Kind.tag?], fun _ => rfl⟩

mutual

/-- Tags that are put in the place of the tags of a tree are its tags then; the others are left
over.  Where they are written like the tags before, the bare tree is the same. -/
theorem withTags_append : ∀ (n : Node) (ts rest : List Tag), ts.length = n.tags.length →
    ∃ n', n.withTags (ts ++ rest) = (n', rest) ∧ n'.tags = ts ∧
      (ts.map (·.raw) = n.tags.map (·.raw) → n'.map Label.bare = n.map Label.bare)
  | branch l cs, ts, rest, h => by
      -- The first of the tags goes to the root, if it is one, and the others go below it.
      rw [tags_branch, List.length_append] at h
      have hs := List.take_append_drop l.kind.tag?.toList.length ts
      have hlen : (ts.take l.kind.tag?.toList.length).length = l.kind.tag?.toList.length := by
        rw [List.length_take]
        omega
      generalize ts.take l.kind.tag?.toList.length = us at hs hlen
      generalize ts.drop l.kind.tag?.toList.length = vs at hs
      subst hs
      rcases replaceTag_append hlen (vs ++ rest) with ⟨l', hl, htag, hbare⟩
      obtain ⟨cs', hc, htags, hbares⟩ := withTagsAll_append cs vs rest (by
        rw [List.length_append] at h
        omega)
      refine ⟨branch l' cs', ?_, ?_, ?_⟩
      · rw [List.append_assoc]
        simp only [withTags, hl, hc]
      · rw [tags_branch, htag, htags]
      · intro hraw
        rw [tags_branch, List.map_append, List.map_append] at hraw
        have hr := List.append_inj hraw (by simpa using hlen)
        simp only [map, hbare hr.1, hbares hr.2]
  | stub l, ts, rest, h => by
      rw [tags_stub] at h
      rcases replaceTag_append h rest with ⟨l', hl, htag, hbare⟩
      refine ⟨stub l', ?_, ?_, ?_⟩
      · simp only [withTags, hl]
      · rw [tags_stub, htag]
      · intro hraw
        rw [tags_stub] at hraw
        simp only [map, hbare hraw]

theorem withTagsAll_append : ∀ (ns : List Node) (ts rest : List Tag),
    ts.length = (tagsAll ns).length →
    ∃ ns', withTagsAll (ts ++ rest) ns = (ns', rest) ∧ tagsAll ns' = ts ∧
      (ts.map (·.raw) = (tagsAll ns).map (·.raw) → mapAll Label.bare ns' = mapAll Label.bare ns)
  | [], ts, rest, h => by
      have hts : ts = [] := List.length_eq_zero_iff.1 h
      subst hts
      exact ⟨[], rfl, rfl, fun _ => rfl⟩
  | c :: cs, ts, rest, h => by
      -- The first tags go to the first tree, as many as it has, and the others to the rest.
      rw [tagsAll_cons, List.length_append] at h
      have hs := List.take_append_drop c.tags.length ts
      have hlen : (ts.take c.tags.length).length = c.tags.length := by
        rw [List.length_take]
        omega
      generalize ts.take c.tags.length = us at hs hlen
      generalize ts.drop c.tags.length = vs at hs
      subst hs
      rcases withTags_append c us (vs ++ rest) hlen with ⟨c', hc, htag, hbare⟩
      obtain ⟨cs', hcs, htags, hbares⟩ := withTagsAll_append cs vs rest (by
        rw [List.length_append] at h
        omega)
      refine ⟨c' :: cs', ?_, ?_, ?_⟩
      · rw [List.append_assoc]
        simp only [withTagsAll, hc, hcs]
      · rw [tagsAll_cons, htag, htags]
      · intro hraw
        rw [tagsAll_cons, List.map_append, List.map_append] at hraw
        have hr := List.append_inj hraw (by simpa using hlen)
        simp only [mapAll, hbare hr.1, hbares hr.2]

end

/-- The tags of a tree, numbered, are its tags. -/
theorem map_toTag_roster (n : Node) : n.roster.map (·.toTag) = n.tags := by
  simp only [roster, tags, List.map_map]
  rfl

/-- A roster that agrees with the roster of a tree may take its place. -/
theorem withRoster_of_agree {n : Node} {r : Roster} (h : r.Agree n.roster) :
    (n.withRoster r).tags = r.map (·.toTag) ∧
      (n.withRoster r).map Label.bare = n.map Label.bare := by
  have hlen : (r.map (·.toTag)).length = n.tags.length := by
    rw [List.length_map, h.length_eq, ← map_toTag_roster, List.length_map]
  rcases withTags_append n (r.map (·.toTag)) [] hlen with ⟨n', hn, htags, hbare⟩
  rw [List.append_nil] at hn
  -- How a tag is written is no part of how it came out.
  have hraw : (r.map (·.toTag)).map (·.raw) = n.tags.map (·.raw) := by
    have hface := congrArg (List.map fun t : PlacedTag => t.raw) h
    rw [← map_toTag_roster]
    simpa [Function.comp_def, PlacedTag.mapTag, Tag.reset, Construct.reset] using hface
  simp only [withRoster, hn]
  exact ⟨htags, hbare hraw⟩

end Node

namespace Pairing

/-- Pairing and checking all tags of a roster changes nothing about a tag but how it is paired. -/
theorem agree_run (T : TagTables) (r : Roster) : (run T r).checked.Agree r :=
  (agree_check _ _).trans (agree_associate T {} r _)

end Pairing

namespace Node

theorem map_bare_pairTags (T : TagTables) (n : Node) :
    (n.pairTags T).map Label.bare = n.map Label.bare :=
  (withRoster_of_agree (Pairing.agree_run T n.roster)).2

theorem tags_pairTags (T : TagTables) (n : Node) :
    (n.pairTags T).tags = (Pairing.run T n.roster).checked.map (·.toTag) :=
  (withRoster_of_agree (Pairing.agree_run T n.roster)).1

/-! ## Blocks -/

theorem tag?_settle (l : Label) (cs : List Node) : (l.settle cs).kind.tag? = l.kind.tag? := by
  unfold Label.settle
  split
  · next name c opening hk ho => simp [hk, Kind.tag?]
  · rfl

theorem settleBlocks_branch_eq_ok_iff {l : Label} {cs : List Node} {m : Node} :
    (branch l cs).settleBlocks = .ok m ↔
      ∃ cs', settleBlocksAll cs = .ok cs' ∧ m = branch (l.settle cs) cs' := by
  rw [settleBlocks]
  constructor
  · intro h
    rcases exists_ok_of_bind h with ⟨cs', hcs, hm⟩
    cases hm
    exact ⟨cs', hcs, rfl⟩
  · rintro ⟨cs', hcs, rfl⟩
    rw [hcs]
    rfl

theorem settleBlocks_stub_eq_ok_iff {l : Label} {m : Node} :
    (stub l).settleBlocks = .ok m ↔ (∀ name c, l.kind ≠ .block name c) ∧ m = stub l := by
  rw [settleBlocks]
  split
  · next name c hk =>
      constructor
      · intro h
        cases h
      · rintro ⟨hno, _⟩
        exact absurd hk (hno name c)
  · next hk =>
      constructor
      · intro h
        cases h
        exact ⟨hk, rfl⟩
      · rintro ⟨_, rfl⟩
        rfl

theorem settleBlocksAll_cons_eq_ok_iff {n : Node} {ns ms : List Node} :
    settleBlocksAll (n :: ns) = .ok ms ↔
      ∃ m rest, n.settleBlocks = .ok m ∧ settleBlocksAll ns = .ok rest ∧ ms = m :: rest := by
  rw [settleBlocksAll]
  constructor
  · intro h
    rcases exists_ok_of_bind h with ⟨m, hm, hrest⟩
    rcases exists_ok_of_bind hrest with ⟨rest, hr, hms⟩
    cases hms
    exact ⟨m, rest, hm, hr, rfl⟩
  · rintro ⟨m, rest, hm, hr, rfl⟩
    rw [hm, hr]
    rfl

mutual

theorem map_bare_settleBlocks : ∀ (n m : Node), n.settleBlocks = .ok m →
    m.map Label.bare = n.map Label.bare ∧ m.tags = n.tags
  | branch l cs, m, h => by
      rcases settleBlocks_branch_eq_ok_iff.1 h with ⟨cs', hc, rfl⟩
      have ih := mapAll_bare_settleBlocksAll cs cs' hc
      simp only [map, tags_branch, ih.1, ih.2, Label.bare_settle, tag?_settle, and_self]
  | stub l, m, h => by
      rcases settleBlocks_stub_eq_ok_iff.1 h with ⟨_, rfl⟩
      exact ⟨rfl, rfl⟩

theorem mapAll_bare_settleBlocksAll : ∀ (ns ms : List Node), settleBlocksAll ns = .ok ms →
    mapAll Label.bare ms = mapAll Label.bare ns ∧ tagsAll ms = tagsAll ns
  | [], ms, h => by
      cases h
      exact ⟨rfl, rfl⟩
  | c :: cs, ms, h => by
      rcases settleBlocksAll_cons_eq_ok_iff.1 h with ⟨c', cs', hc, hcs, rfl⟩
      have hhead := map_bare_settleBlocks c c' hc
      have htail := mapAll_bare_settleBlocksAll cs cs' hcs
      simp only [mapAll, tagsAll_cons, hhead.1, hhead.2, htail.1, htail.2, and_self]

end

end Node

/-! ## The whole -/

/-- What is annotated is the split tree, up to bare labels; its tags are those of the checked
pairing. -/
theorem exists_segmentTree_of_annotate {T : TagTables} {source : Option Text} {n m : Node}
    (h : annotate T source (some n) = .ok m) :
    ∃ s, segmentTree T (source.map .ofText) (some n) = .ok s ∧
      m.map Label.bare = s.map Label.bare ∧
      m.tags = (Pairing.run T (s.map (Label.read T)).roster).checked.map (·.toTag) := by
  rcases exists_ok_of_bind h with ⟨s, hs, h⟩
  have hsettle := Node.map_bare_settleBlocks _ _ h
  refine ⟨s, hs, ?_, ?_⟩
  · rw [hsettle.1, Node.map_bare_pairTags, Node.map_bare_map (Label.bare_read T)]
  · rw [hsettle.2, Node.tags_pairTags]

end LiquidMarkdown
