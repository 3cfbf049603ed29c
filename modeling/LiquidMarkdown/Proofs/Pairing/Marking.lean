import LiquidMarkdown.Proofs.Annotation.Consistency
import LiquidMarkdown.Proofs.Pairing.History

/-!
# What a check marks

A check goes through the block types whose counts disagree, and through the tags for each of them.
It writes into tags while it reads them, but what it writes decides nothing: neither the counts nor
the partners of a tag depend on how reading came out.  This file defines:

* `Unmatched` — what is wrong with a tag without a partner, where its type has too many of its kind;
* `Roster.SameLinks` — two rosters differ in outcomes, errors and what was read only;
* `findings` — the tags that are unmatched, type by type, with what is wrong with them;
* `overdue` — those that do not carry the message yet;
* `Marks` — a check marks some tags, and tells of each of them once.

The main result is `check_runAll_marks`.
-/

namespace LiquidMarkdown

namespace Text

theorem nodup_eraseDups (ts : List Text) : ts.eraseDups.Nodup := by
  generalize hlen : ts.length = n
  induction n using Nat.strongRecOn generalizing ts with
  | ind n ih =>
      cases ts with
      | nil => exact List.nodup_nil
      | cons t ts =>
          have hshorter : (ts.filter fun u => !u == t).length < n := by
            have hle := List.length_filter_le (fun u => !u == t) ts
            rw [List.length_cons] at hlen
            omega
          rw [List.eraseDups_cons]
          refine List.nodup_cons.2 ⟨fun hmem => ?_, ih _ hshorter _ rfl⟩
          simpa using (List.mem_filter.1 (List.mem_eraseDups.1 hmem)).2

end Text

/-! ## Unmatched tags -/

namespace Pairing

/-- The number of opening tags of a type among the given ones. -/
def startCount (r : Roster) (is : List TagId) (blockType : Text) : Nat :=
  is.countP fun i => (r.tag i).isStart && (r.tag i).name = blockType

/-- The number of closing tags of a type among the given ones. -/
def endCount (r : Roster) (is : List TagId) (blockType : Text) : Nat :=
  is.countP fun i => (r.tag i).isEnd && Tag.blockOfEnd (r.tag i).name = blockType

/-- What is wrong with a tag without a partner, if its type has more opening than closing tags among
the given ones, or more closing than opening ones. -/
inductive Unmatched (r : Roster) (is : List TagId) (i : TagId) : Fault → Prop where
  | start (role : (r.tag i).isStart = true)
      (alone : ∀ id, (r.tag i).blockId = some id → ∀ j ∈ (r.tag i).related,
        ¬ ((r.tag j).isEnd = true ∧ (r.tag j).matchingId = some id))
      (more : endCount r is (r.tag i).name < startCount r is (r.tag i).name) :
      Unmatched r is i (.unclosed (r.tag i).name)
  | stop (role : (r.tag i).isEnd = true)
      (alone : ∀ id, (r.tag i).matchingId = some id → ∀ j ∈ (r.tag i).related,
        ¬ ((r.tag j).isStart = true ∧ (r.tag j).blockId = some id))
      (more : startCount r is (Tag.blockOfEnd (r.tag i).name) <
        endCount r is (Tag.blockOfEnd (r.tag i).name)) :
      Unmatched r is i (.orphanedEnd (r.tag i).name)

theorem hasEndPartner_eq_false {r : Roster} {i : TagId} : hasEndPartner r i = false ↔
    ∀ id, (r.tag i).blockId = some id → ∀ j ∈ (r.tag i).related,
      ¬ ((r.tag j).isEnd = true ∧ (r.tag j).matchingId = some id) := by
  unfold hasEndPartner
  cases h : (r.tag i).blockId with
  | none => simp [h]
  | some id => simp [h]

theorem hasStartPartner_eq_false {r : Roster} {i : TagId} : hasStartPartner r i = false ↔
    ∀ id, (r.tag i).matchingId = some id → ∀ j ∈ (r.tag i).related,
      ¬ ((r.tag j).isStart = true ∧ (r.tag j).blockId = some id) := by
  unfold hasStartPartner
  cases h : (r.tag i).matchingId with
  | none => simp [h]
  | some id => simp [h]

/-! ## Types whose counts disagree -/

section Imbalances

variable {r : Roster} {is : List TagId} {i : TagId} {b : Imbalance} {f : Fault}

theorem count_startTypes (r : Roster) (is : List TagId) (X : Text) :
    (startTypes r is).count X = startCount r is X := by
  rw [startTypes, List.count_eq_countP, List.countP_map, List.countP_filter, startCount]
  apply List.countP_congr
  intro i _
  simp [and_comm]

theorem count_endTypes (r : Roster) (is : List TagId) (X : Text) :
    (endTypes r is).count X = endCount r is X := by
  rw [endTypes, List.count_eq_countP, List.countP_map, List.countP_filter, endCount]
  apply List.countP_congr
  intro i _
  simp [and_comm]

theorem mem_startTypes (hi : i ∈ is) (hs : (r.tag i).isStart = true) :
    (r.tag i).name ∈ startTypes r is :=
  List.mem_map.2 ⟨i, List.mem_filter.2 ⟨hi, hs⟩, rfl⟩

theorem mem_endTypes (hi : i ∈ is) (he : (r.tag i).isEnd = true) :
    Tag.blockOfEnd (r.tag i).name ∈ endTypes r is :=
  List.mem_map.2 ⟨i, List.mem_filter.2 ⟨hi, he⟩, rfl⟩

theorem mem_imbalances : b ∈ imbalances r is ↔
    b.blockType ∈ startTypes r is ++ endTypes r is ∧ b.starts = startCount r is b.blockType ∧
      b.ends = endCount r is b.blockType ∧ b.starts ≠ b.ends := by
  have hset (X : Text) (Xs : List Text) : X ∈ Text.sortedSet Xs ↔ X ∈ Xs := by
    rw [Text.sortedSet, List.mem_mergeSort, List.mem_eraseDups]
  simp only [imbalances, List.mem_filter, List.mem_map, hset, count_startTypes, count_endTypes,
    decide_eq_true_eq]
  constructor
  · rintro ⟨⟨X, hX, rfl⟩, hne⟩
    exact ⟨hX, rfl, rfl, hne⟩
  · rintro ⟨hX, hstarts, hends, hne⟩
    exact ⟨⟨b.blockType, hX, by rw [← hstarts, ← hends]⟩, hne⟩

theorem nodup_imbalances (r : Roster) (is : List TagId) :
    ((imbalances r is).map Imbalance.blockType).Nodup := by
  have hset (Xs : List Text) : (Text.sortedSet Xs).Nodup :=
    (List.mergeSort_perm _ _).nodup_iff.2 (Text.nodup_eraseDups Xs)
  have hsub : ((imbalances r is).map Imbalance.blockType).Sublist
      (Text.sortedSet (startTypes r is ++ endTypes r is)) := by
    have hmap := (List.filter_sublist (p := fun b : Imbalance => b.starts ≠ b.ends)
      (l := (Text.sortedSet (startTypes r is ++ endTypes r is)).map fun X =>
        (⟨X, (startTypes r is).count X, (endTypes r is).count X⟩ : Imbalance))).map
        Imbalance.blockType
    simpa [imbalances, Function.comp_def] using hmap
  exact (hset _).sublist hsub

/-- A fault is that of an opening tag without a partner, where there are more of them, or of a
closing tag without a partner else. -/
theorem fault?_eq_some : b.fault? r i = some f ↔
    b.ends < b.starts ∧ (r.tag i).isStart = true ∧ (r.tag i).name = b.blockType ∧
        hasEndPartner r i = false ∧ f = .unclosed b.blockType ∨
      ¬ b.ends < b.starts ∧ (r.tag i).isEnd = true ∧ Tag.blockOfEnd (r.tag i).name = b.blockType ∧
        hasStartPartner r i = false ∧ f = .orphanedEnd (r.tag i).name := by
  unfold Imbalance.fault?
  by_cases hmore : b.ends < b.starts
  · simp [hmore, and_assoc, @eq_comm _ f]
  · simp [hmore, and_assoc, @eq_comm _ f]

/-- The faults of the types whose counts disagree are those of the unmatched tags. -/
theorem exists_fault?_iff (hi : i ∈ is) :
    (∃ b ∈ imbalances r is, b.fault? r i = some f) ↔ Unmatched r is i f := by
  constructor
  · rintro ⟨b, hb, hf⟩
    obtain ⟨-, hstarts, hends, hne⟩ := mem_imbalances.1 hb
    rcases fault?_eq_some.1 hf with
      ⟨hmore, hs, hname, halone, rfl⟩ | ⟨hmore, he, hname, halone, rfl⟩
    · rw [hstarts, hends, ← hname] at hmore
      rw [← hname]
      exact .start hs (hasEndPartner_eq_false.1 halone) hmore
    · have hless : b.starts < b.ends := by omega
      rw [hstarts, hends, ← hname] at hless
      exact .stop he (hasStartPartner_eq_false.1 halone) hless
  · intro h
    cases h with
    | start hs halone hmore =>
        refine ⟨⟨(r.tag i).name, startCount r is _, endCount r is _⟩,
          mem_imbalances.2 ⟨?_, rfl, rfl, ?_⟩,
          fault?_eq_some.2 (.inl ⟨hmore, hs, rfl, hasEndPartner_eq_false.2 halone, rfl⟩)⟩
        · exact List.mem_append_left _ (mem_startTypes hi hs)
        · exact Nat.ne_of_gt hmore
    | stop he halone hmore =>
        refine ⟨⟨Tag.blockOfEnd (r.tag i).name, startCount r is _, endCount r is _⟩,
          mem_imbalances.2 ⟨?_, rfl, rfl, ?_⟩, fault?_eq_some.2
            (.inr
            ⟨Nat.not_lt.2 (Nat.le_of_lt hmore), he, rfl, hasStartPartner_eq_false.2 halone, rfl⟩)⟩
        · exact List.mem_append_right _ (mem_endTypes hi he)
        · exact Nat.ne_of_lt hmore

/-- A tag with one role has faults of one type only. -/
theorem blockType_of_fault? (hrole : (r.tag i).SingleRole) {b' : Imbalance} {f' : Fault}
    (h : b.fault? r i = some f) (h' : b'.fault? r i = some f') : b.blockType = b'.blockType := by
  rcases fault?_eq_some.1 h with ⟨-, hs, hname, -⟩ | ⟨-, he, hname, -⟩
  · rcases fault?_eq_some.1 h' with ⟨-, -, hname', -⟩ | ⟨-, he', -⟩
    · exact hname.symm.trans hname'
    · rw [(hrole.of_isStart hs).1] at he'
      cases he'
  · rcases fault?_eq_some.1 h' with ⟨-, hs', -⟩ | ⟨-, -, hname', -⟩
    · rw [(hrole.of_isEnd he).1] at hs'
      cases hs'
    · exact hname.symm.trans hname'

end Imbalances

/-! ## What the check finds -/

/-- The unmatched tags, type by type, each with what is wrong with it. -/
def findings (r : Roster) (is : List TagId) : List (TagId × Fault) :=
  (imbalances r is).flatMap fun b => is.filterMap fun i => (b.fault? r i).map fun f => (i, f)

section Findings

variable {r : Roster} {is : List TagId} {i : TagId} {f : Fault}

theorem mem_findings : (i, f) ∈ findings r is ↔ i ∈ is ∧ Unmatched r is i f := by
  have hmem : (i, f) ∈ findings r is ↔ i ∈ is ∧ ∃ b ∈ imbalances r is, b.fault? r i = some f := by
    simp only [findings, List.mem_flatMap, List.mem_filterMap, Option.map_eq_some_iff,
      Prod.mk.injEq]
    constructor
    · rintro ⟨b, hb, i', hi, f', hf, rfl, rfl⟩
      exact ⟨hi, b, hb, hf⟩
    · rintro ⟨hi, b, hb, hf⟩
      exact ⟨b, hb, i, hi, f, hf, rfl, rfl⟩
  rw [hmem]
  exact and_congr_right fun hi => exists_fault?_iff hi

/-- No tag is found twice. -/
theorem nodup_findings (hn : is.Nodup) (hrole : ∀ i ∈ is, (r.tag i).SingleRole) :
    ((findings r is).map Prod.fst).Nodup := by
  have hfirst (b : Imbalance) :
      (is.filterMap fun i => (b.fault? r i).map fun f => (i, f)).map Prod.fst =
        is.filter fun i => (b.fault? r i).isSome := by
    induction is with
    | nil => rfl
    | cons i is ih =>
        have hrest := ih (List.nodup_cons.1 hn).2 fun j hj => hrole j (List.mem_cons_of_mem i hj)
        cases hf : b.fault? r i with
        | none => simp [hf, hrest]
        | some f => simp [hf, hrest]
  rw [findings, List.map_flatMap, List.nodup_flatMap]
  refine ⟨fun b _ => by rw [hfirst]; exact hn.filter _, ?_⟩
  -- A tag that is found for two types would have two roles.
  refine (List.pairwise_map.1 (nodup_imbalances r is)).imp fun {b b'} hne => ?_
  intro i hi hi'
  dsimp only at hi hi'
  rw [hfirst, List.mem_filter, Option.isSome_iff_exists] at hi hi'
  obtain ⟨his, f, hf⟩ := hi
  obtain ⟨-, f', hf'⟩ := hi'
  exact hne (blockType_of_fault? (hrole i his) hf hf')

end Findings
end Pairing

/-! ## Links -/

/-- The tag as if nothing was known about its reading. -/
def Tag.unmarked (t : Tag) : Tag :=
  { t with outcome := .pending, error := none, parsed := none }

namespace Roster

/-- The rosters differ in outcomes, errors and what was read only. -/
def SameLinks (r r' : Roster) : Prop :=
  ∀ i, (r.tag i).toTag.unmarked = (r'.tag i).toTag.unmarked

namespace SameLinks

variable {r r' r'' : Roster}

theorem refl (r : Roster) : r.SameLinks r := fun _ => rfl

theorem trans (h : r.SameLinks r') (h' : r'.SameLinks r'') : r.SameLinks r'' :=
  fun i => (h i).trans (h' i)

/-- Whatever does not read how reading came out is the same in both rosters. -/
theorem field {α : Type} (g : Tag → α) (hg : ∀ t, g t.unmarked = g t) (h : r.SameLinks r')
    (i : TagId) : g (r.tag i).toTag = g (r'.tag i).toTag := by
  rw [← hg (r.tag i).toTag, ← hg (r'.tag i).toTag, h i]

theorem name (h : r.SameLinks r') (i : TagId) : (r.tag i).name = (r'.tag i).name :=
  h.field (·.name) (fun _ => rfl) i

theorem isStart (h : r.SameLinks r') (i : TagId) : (r.tag i).isStart = (r'.tag i).isStart :=
  h.field (·.isStart) (fun _ => rfl) i

theorem isEnd (h : r.SameLinks r') (i : TagId) : (r.tag i).isEnd = (r'.tag i).isEnd :=
  h.field (·.isEnd) (fun _ => rfl) i

theorem blockId (h : r.SameLinks r') (i : TagId) : (r.tag i).blockId = (r'.tag i).blockId :=
  h.field (·.blockId) (fun _ => rfl) i

theorem matchingId (h : r.SameLinks r') (i : TagId) :
    (r.tag i).matchingId = (r'.tag i).matchingId :=
  h.field (·.matchingId) (fun _ => rfl) i

theorem related (h : r.SameLinks r') (i : TagId) : (r.tag i).related = (r'.tag i).related :=
  h.field (·.related) (fun _ => rfl) i

theorem update (r : Roster) (i : TagId) {f : Tag → Tag} (hf : ∀ t, (f t).unmarked = t.unmarked) :
    (r.update i f).SameLinks r := by
  intro j
  rw [tag_update]
  split
  · exact hf _
  · rfl

end SameLinks
end Roster

/-! ## The check, one finding after another -/

namespace Pairing

variable {r : Roster} {is : List TagId} {b : Imbalance} {s : Roster × List Text}

/-- What is wrong with a tag does not depend on what was marked. -/
theorem fault?_congr {r' : Roster} (h : r'.SameLinks r) (b : Imbalance) (i : TagId) :
    b.fault? r' i = b.fault? r i := by
  simp only [Imbalance.fault?, hasEndPartner, hasStartPartner, h.isStart, h.isEnd, h.name,
    h.blockId,
    h.matchingId, h.related]
  rfl

theorem findings_congr {r' : Roster} (h : r'.SameLinks r) (is : List TagId) :
    findings r' is = findings r is := by
  have himbalances : imbalances r' is = imbalances r is := by
    simp only [imbalances, startTypes, endTypes, h.isStart, h.isEnd, h.name]
  simp only [findings, himbalances, fault?_congr h]

/-- Mark a tag with a fault and tell of it, unless it carries the message already. -/
def report (s : Roster × List Text) (p : TagId × Fault) : Roster × List Text :=
  if (s.1.tag p.1).error = some p.2.message then s
  else (s.1.update p.1 (markFault p.2), s.2 ++ [p.2.message])

theorem sameLinks_report (s : Roster × List Text) (p : TagId × Fault) :
    (report s p).1.SameLinks s.1 := by
  unfold report
  split
  · exact .refl _
  · exact .update _ _ fun _ => rfl

theorem sameLinks_foldl_report (ps : List (TagId × Fault)) (s : Roster × List Text) :
    (ps.foldl report s).1.SameLinks s.1 := by
  induction ps generalizing s with
  | nil => exact .refl _
  | cons p ps ih => exact (ih (report s p)).trans (sameLinks_report s p)

/-- Marking the tags of a type reports what is wrong with them. -/
theorem foldl_mark_eq (h : s.1.SameLinks r) (b : Imbalance) (is : List TagId) :
    is.foldl b.mark s =
      (is.filterMap fun i => (b.fault? r i).map fun f => (i, f)).foldl report s := by
  induction is generalizing s with
  | nil => rfl
  | cons i is ih =>
      have hfault := fault?_congr h b i
      cases hf : b.fault? r i with
      | none =>
          have hmark : b.mark s i = s := by rw [Imbalance.mark, hfault, hf]
          rw [List.foldl_cons, hmark, ih h, List.filterMap_cons, hf, Option.map_none]
      | some f =>
          have hmark : b.mark s i = report s (i, f) := by
            rw [Imbalance.mark, hfault, hf]
            rfl
          rw [List.foldl_cons, hmark, ih ((sameLinks_report s (i, f)).trans h),
            List.filterMap_cons, hf,
            Option.map_some, List.foldl_cons]

theorem foldl_marks_eq (h : s.1.SameLinks r) (bs : List Imbalance) (is : List TagId) :
    bs.foldl (fun s b => is.foldl b.mark s) s =
      (bs.flatMap fun b => is.filterMap fun i => (b.fault? r i).map fun f => (i, f)).foldl
      report s := by
  induction bs generalizing s with
  | nil => rfl
  | cons b bs ih =>
      rw [List.foldl_cons, foldl_mark_eq h, List.flatMap_cons, List.foldl_append,
        ih ((sameLinks_foldl_report _ s).trans h)]

/-- Where there is no error to clear, the check reports its findings. -/
theorem check_eq_foldl_report (hclear : r.updateAll is clearError = r) :
    check r is = (findings r is).foldl report (r, []) := by
  simp only [check, hclear]
  exact foldl_marks_eq (.refl r) _ _

/-! ## What is marked -/

/-- Some tags are marked, each with a fault and no tag twice; there is one message for each of them,
and all other tags stay as they are. -/
structure Marks (r : Roster) (marked : List (TagId × Fault)) (c : Roster × List Text) : Prop where
  once : (marked.map Prod.fst).Nodup
  messages : c.2 = marked.map fun p => p.2.message
  tag_marked : ∀ p ∈ marked, c.1.tag p.1 = (r.tag p.1).mapTag (markFault p.2)
  tag_spared : ∀ i, i ∉ marked.map Prod.fst → c.1.tag i = r.tag i

/-- The findings about tags that do not carry the message yet. -/
def overdue (r : Roster) (ps : List (TagId × Fault)) : List (TagId × Fault) :=
  ps.filter fun p => (r.tag p.1).error ≠ some p.2.message

theorem mem_overdue {ps : List (TagId × Fault)} {p : TagId × Fault} :
    p ∈ overdue r ps ↔ p ∈ ps ∧ (r.tag p.1).error ≠ some p.2.message := by
  simp [overdue]

/-- One finding more, about a tag that was not found before. -/
theorem Marks.report {ps : List (TagId × Fault)} (h : Marks r ps s) (hlen : s.1.length = r.length)
    {p : TagId × Fault} (hp : p.1 ∉ ps.map Prod.fst) (hlt : p.1 < r.length) :
    Marks r (ps ++ overdue r [p]) (report s p) := by
  have hsame := h.tag_spared p.1 hp
  unfold Pairing.report
  rw [hsame]
  -- A fault that the tag carries already is not written again, and is not overdue.
  by_cases herror : (r.tag p.1).error = some p.2.message
  · rw [if_pos herror, overdue, List.filter_singleton]
    simpa [herror] using h
  · have hoverdue : overdue r [p] = [p] := by simp [overdue, herror]
    rw [if_neg herror, hoverdue]
    have hne {q : TagId × Fault} (hq : q ∈ ps) : p.1 ≠ q.1 :=
      fun heq => hp (heq ▸ List.mem_map_of_mem hq)
    refine ⟨?_, ?_, fun q hq => ?_, fun i hi => ?_⟩
    · rw [List.map_append]
      exact List.nodup_append'.2 ⟨h.once, List.nodup_singleton _, by simpa using hp⟩
    · rw [List.map_append, h.messages]
      rfl
    · rcases List.mem_append.1 hq with hq | hq
      · rw [Roster.tag_update_of_ne _ (hne hq)]
        exact h.tag_marked q hq
      · cases List.mem_singleton.1 hq
        rw [Roster.tag_update_self (hlen ▸ hlt), hsame]
    · rw [List.map_append, List.mem_append, not_or] at hi
      have hne' : p.1 ≠ i := fun heq => hi.2 (by simp [heq])
      rw [Roster.tag_update_of_ne _ hne']
      exact h.tag_spared i hi.1

theorem length_foldl_report (ps : List (TagId × Fault)) (s : Roster × List Text) :
    (ps.foldl report s).1.length = s.1.length := by
  induction ps generalizing s with
  | nil => rfl
  | cons p ps ih =>
      rw [List.foldl_cons, ih]
      unfold report
      split
      · rfl
      · exact Roster.length_update _ _ _

/-- Findings about different tags mark those of them that do not carry the message yet. -/
theorem marks_foldl_report {ps : List (TagId × Fault)} (hn : (ps.map Prod.fst).Nodup)
    (hlt : ∀ p ∈ ps, p.1 < r.length) : Marks r (overdue r ps) (ps.foldl report (r, [])) := by
  induction ps using List.reverseRecOn with
  | nil => exact ⟨List.nodup_nil, rfl, fun _ hp => absurd hp List.not_mem_nil, fun _ _ => rfl⟩
  | append_singleton ps p ih =>
      rw [List.map_append, List.nodup_append'] at hn
      have hbefore := ih hn.1 fun q hq => hlt q (List.mem_append_left _ hq)
      have hp : p.1 ∉ (overdue r ps).map Prod.fst := by
        intro hmem
        obtain ⟨q, hq, heq⟩ := List.mem_map.1 hmem
        exact hn.2.2 (List.mem_map_of_mem (mem_overdue.1 hq).1) (by simp [heq])
      rw [List.foldl_append, overdue, List.filter_append]
      exact hbefore.report (length_foldl_report ps (r, [])) hp
        (hlt p (List.mem_append_right _ (List.mem_singleton_self p)))

/-! ## Sound tags -/

section Sound

variable (hsound : r.Every Tag.Sound) (hrole : ∀ i ∈ is, (r.tag i).SingleRole) (hn : is.Nodup)

include hsound

theorem sameLinks_check (is : List TagId) : (check r is).1.SameLinks r := by
  rw [check_eq_foldl_report (updateAll_clearError_of_sound hsound is)]
  exact sameLinks_foldl_report _ _

include hrole hn

/-- The check of different tags marks what it finds, apart from tags that carry the message already.
-/
theorem marks_check : Marks r (overdue r (findings r is)) (check r is) := by
  rw [check_eq_foldl_report (updateAll_clearError_of_sound hsound is)]
  refine marks_foldl_report (nodup_findings hn hrole) fun p hp => ?_
  apply Roster.lt_length_of_hasBlockRole
  have hunmatched : Unmatched r is p.1 p.2 := (mem_findings.1 hp).2
  generalize p.2 = f at hunmatched
  cases hunmatched with
  | start hs => exact Tag.hasBlockRole_of_isStart hs
  | stop he => exact Tag.hasBlockRole_of_isEnd he

/-- Behind the check every tag that it finds has failed with the message. -/
theorem failed_check {p : TagId × Fault} (hp : p ∈ findings r is) :
    ((check r is).1.tag p.1).outcome = .failed ∧
      ((check r is).1.tag p.1).error = some p.2.message := by
  have hmarks := marks_check hsound hrole hn
  by_cases herror : (r.tag p.1).error = some p.2.message
  · have hspared : (check r is).1.tag p.1 = r.tag p.1 := by
      apply hmarks.tag_spared
      intro hmem
      obtain ⟨q, hq, heq⟩ := List.mem_map.1 hmem
      obtain ⟨hfound, hnew⟩ := mem_overdue.1 hq
      cases List.inj_on_of_nodup_map (nodup_findings hn hrole) hfound hp heq
      exact hnew herror
    rw [hspared]
    refine ⟨?_, herror⟩
    -- Nothing but a failure leaves a message on a tag.
    cases (hsound p.1).consistent with
    | pending _ he _ => rw [he] at herror; cases herror
    | success _ he _ => rw [he] at herror; cases herror
    | failed d ho _ _ => exact ho
  · rw [hmarks.tag_marked p (mem_overdue.2 ⟨hp, herror⟩)]
    exact ⟨rfl, rfl⟩

/-- A second check finds the same, and has nothing to mark. -/
theorem check_check : check (check r is).1 is = ((check r is).1, []) := by
  have hlinks := sameLinks_check hsound is
  have hsound' := sound_check hsound is
  rw [check_eq_foldl_report (updateAll_clearError_of_sound hsound' is), findings_congr hlinks]
  exact foldl_eq_self fun p hp => if_pos (failed_check hsound hrole hn hp).2

end Sound

/-! ## Tags that were read -/

namespace Pass

/-- Passes keep all tags sound. -/
theorem sound_runAll (h : r.Every Tag.Sound) (passes : List Pass) :
    (runAll r passes).Every Tag.Sound := by
  induction passes generalizing r with
  | nil => exact h
  | cons p passes ih =>
      cases p with
      | associate T ids is => exact ih (sound_associate h T ids is)
      | check is => exact ih (sound_check h is)

end Pass

/-- Tags are read, and then paired and checked in passes over any of them.  A check of different
tags marks those that are unmatched among them, unless they carry the message already; it tells of
each marked tag once, and leaves the other tags as they are.  Behind it every unmatched tag has
failed with the message; the block ids and the related tags of all tags are as before; and to check
once more finds nothing and changes nothing. -/
theorem check_runAll_marks (T : TagTables) (passes : List Pass) (hn : is.Nodup)
    (hraw : ∀ t ∈ r, t.raw = [] → t.Sound ∧ t.SingleRole) :
    let s := Pass.runAll (r.map (PlacedTag.mapTag (Tag.read T))) passes
    (∃ marked, Marks s marked (check s is) ∧ ∀ i f, (i, f) ∈ marked ↔
      i ∈ is ∧ Unmatched s is i f ∧ (s.tag i).error ≠ some f.message) ∧
      (∀ i ∈ is, ∀ f, Unmatched s is i f → ((check s is).1.tag i).outcome = .failed ∧
        ((check s is).1.tag i).error = some f.message) ∧
      (∀ i, ((check s is).1.tag i).blockId = (s.tag i).blockId ∧
        ((check s is).1.tag i).matchingId = (s.tag i).matchingId ∧
        ((check s is).1.tag i).related = (s.tag i).related) ∧
      check (check s is).1 is = ((check s is).1, []) := by
  intro s
  -- Reading gives every tag one role at most, and neither pairing nor checking changes a role.
  have hread :
      Roster.Every (fun t => t.Sound ∧ t.SingleRole) (r.map (PlacedTag.mapTag (Tag.read T))) := by
    refine Roster.every_of_mem ⟨Tag.sound_of_raw [], ⟨nofun, nofun⟩⟩ fun t ht => ?_
    obtain ⟨u, hu, rfl⟩ := List.mem_map.1 ht
    refine ⟨Tag.sound_read (fun hnil => (hraw u hu hnil).1) T, ?_⟩
    by_cases hnil : u.raw = []
    · have hsame : u.toTag.read T = u.toTag := by rw [Tag.read, if_pos hnil]
      rw [PlacedTag.mapTag, hsame]
      exact (hraw u hu hnil).2
    · exact (Tag.prepared_read T fun h => absurd h hnil).singleRole
  have hsound : s.Every Tag.Sound := Pass.sound_runAll (fun i => (hread i).1) passes
  have hrole (i : TagId) (_ : i ∈ is) : (s.tag i).SingleRole := by
    have hagree : s.Agree (r.map (PlacedTag.mapTag (Tag.read T))) := Pass.agree_runAll _ passes
    obtain ⟨-, hstart, hend⟩ := hread i
    refine ⟨?_, ?_⟩
    · rw [hagree.isStart, hagree.isEnd, hagree.isContinuation]
      exact hstart
    · rw [hagree.isStart, hagree.isEnd, hagree.isContinuation]
      exact hend
  have hlinks := sameLinks_check hsound is
  refine ⟨⟨overdue s (findings s is), marks_check hsound hrole hn, fun i f => ?_⟩, ?_, ?_,
    check_check hsound hrole hn⟩
  · rw [mem_overdue, mem_findings, and_assoc]
  · intro i hi f hf
    exact failed_check hsound hrole hn (mem_findings.2 ⟨hi, hf⟩)
  · intro i
    exact ⟨hlinks.blockId i, hlinks.matchingId i, hlinks.related i⟩

/-- Two opening tags that were paired with the same closing tag, one after the other, and a tag that
closes nothing. -/
def repaired : Roster :=
  [("{% if a %}" : Text), "{% endif %}", "{% if b %}", "{% endfor %}"].map fun raw => { raw := raw }

theorem check_runAll_marks_repaired :
    ([0, 1, 2, 3] : List TagId).Nodup ∧
      (∀ t ∈ repaired, t.raw = [] → t.Sound ∧ t.SingleRole) ∧
      let s := Pass.runAll (repaired.map (PlacedTag.mapTag (Tag.read .standard)))
        [.associate .standard {} [0, 1], .check [0, 3], .associate .standard {} [2, 1]]
      (∃ marked, Marks s marked (check s [0, 1, 2, 3]) ∧ ∀ i f, (i, f) ∈ marked ↔
        i ∈ [0, 1, 2, 3] ∧ Unmatched s [0, 1, 2, 3] i f ∧ (s.tag i).error ≠ some f.message) ∧
        check (check s [0, 1, 2, 3]).1 [0, 1, 2, 3] = ((check s [0, 1, 2, 3]).1, []) := by
  have hn : ([0, 1, 2, 3] : List TagId).Nodup := by decide
  have hraw : ∀ t ∈ repaired, t.raw = [] → t.Sound ∧ t.SingleRole := by
    have hne : ∀ t ∈ repaired, t.raw ≠ [] := by decide
    intro t ht hnil
    exact absurd hnil (hne t ht)
  have h := check_runAll_marks .standard
    [.associate .standard {} [0, 1], .check [0, 3], .associate .standard {} [2, 1]] hn hraw
  exact ⟨hn, hraw, h.1, h.2.2.2⟩

end Pairing
end LiquidMarkdown
