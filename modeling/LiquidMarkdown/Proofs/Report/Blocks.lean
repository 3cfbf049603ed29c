import LiquidMarkdown.Proofs.Annotation.Rerun
import LiquidMarkdown.Proofs.Markdown.Order
import LiquidMarkdown.Proofs.Pairing.Assignment
import LiquidMarkdown.Proofs.Report

/-!
# The blocks of a report

A report groups the tags of a document by their block ids, whatever frames they were paired in.
Behind a pairing every opening tag has an id of its own and comes before the other tags with its id,
so the groups are the blocks.  This file defines:

* `Report.idsOf`, `Report.groupOf` — the block ids of some tags, and the tags that carry one of
  them;
* `Report.foldl_addToGroups` — grouping comes to one group for each id;
* `Pairing.Complete` — all tags of a roster were paired;
* `Pairing.Complete.idsOf_prefix` — their ids are those of the opening tags, in the order of these;
* `Pairing.BlockTags` — the tags of the block that a tag opens, `Pairing.BlockTags.groupOf_eq`;
* `Report.Block.Describes` — an entry of a report tells of the block that a tag opens;
* `Report.Lists` — the entries of a report are those of the blocks, and list all tags that were
  paired;
* `annotate_ofElement_listed` — so it is with the reports of Markdown documents.
-/

namespace LiquidMarkdown

/-! ## Grouping by id -/

namespace Report

/-- The block ids of some tags, in the order of their first occurrences. -/
def idsOf (ts : List PlacedTag) : List Text :=
  (ts.filterMap (·.blockId)).eraseDups

/-- The group of the tags that carry a block id. -/
def groupOf (ts : List PlacedTag) (id : Text) : Group :=
  (ts.filter fun t => t.blockId = some id).foldl Group.add { id := id }

variable {ts : List PlacedTag} {t : PlacedTag} {id : Text}

theorem mem_idsOf : id ∈ idsOf ts ↔ ∃ t ∈ ts, t.blockId = some id := by
  rw [idsOf, List.mem_eraseDups, List.mem_filterMap]

theorem idsOf_concat_of_none (h : t.blockId = none) : idsOf (ts ++ [t]) = idsOf ts := by
  simp [idsOf, List.filterMap_append, h]

theorem idsOf_concat_of_mem (h : t.blockId = some id) (hid : id ∈ idsOf ts) :
    idsOf (ts ++ [t]) = idsOf ts := by
  have hmem : id ∈ ts.filterMap (·.blockId) := List.mem_eraseDups.1 hid
  have hconcat : (ts ++ [t]).filterMap (·.blockId) = ts.filterMap (·.blockId) ++ [id] := by
    simp [List.filterMap_append, h]
  rw [idsOf, idsOf, hconcat, List.eraseDups_append]
  generalize ts.filterMap (·.blockId) = ids at hmem
  simp [List.removeAll, hmem]

theorem idsOf_concat_of_notMem (h : t.blockId = some id) (hid : id ∉ idsOf ts) :
    idsOf (ts ++ [t]) = idsOf ts ++ [id] := by
  have hmem : id ∉ ts.filterMap (·.blockId) := fun hc => hid (List.mem_eraseDups.2 hc)
  have hconcat : (ts ++ [t]).filterMap (·.blockId) = ts.filterMap (·.blockId) ++ [id] := by
    simp [List.filterMap_append, h]
  rw [idsOf, idsOf, hconcat, List.eraseDups_append]
  generalize ts.filterMap (·.blockId) = ids at hmem
  simp [List.removeAll, hmem, List.eraseDups_cons]

theorem id_add (g : Group) (t : PlacedTag) : (g.add t).id = g.id := by
  unfold Group.add
  split
  · rfl
  · split
    · rfl
    · split
      · rfl
      · rfl

theorem id_groupOf (ts : List PlacedTag) (id : Text) : (groupOf ts id).id = id := by
  unfold groupOf
  induction ts.filter (fun t => t.blockId = some id) using List.reverseRecOn with
  | nil => rfl
  | append_singleton us t ih => rw [List.foldl_append, List.foldl_cons, List.foldl_nil, id_add, ih]

theorem groupOf_concat_self (h : t.blockId = some id) :
    groupOf (ts ++ [t]) id = (groupOf ts id).add t := by
  simp [groupOf, List.filter_append, h]

theorem groupOf_concat_of_ne (h : t.blockId ≠ some id) :
    groupOf (ts ++ [t]) id = groupOf ts id := by
  simp [groupOf, List.filter_append, h]

/-- No tag carries an id that does not occur. -/
theorem groupOf_of_notMem (h : id ∉ idsOf ts) : groupOf ts id = { id := id } := by
  have hnil : ts.filter (fun t => t.blockId = some id) = [] := by
    rw [List.filter_eq_nil_iff]
    intro t ht hid
    exact h (mem_idsOf.2 ⟨t, ht, of_decide_eq_true hid⟩)
  rw [groupOf, hnil]
  rfl

/-- Grouping comes to one group for each id, in the order of the first occurrences. -/
theorem foldl_addToGroups (ts : List PlacedTag) :
    ts.foldl addToGroups [] = (idsOf ts).map (groupOf ts) := by
  induction ts using List.reverseRecOn with
  | nil => rfl
  | append_singleton ts t ih =>
      rw [List.foldl_append, List.foldl_cons, List.foldl_nil, ih]
      cases ht : t.blockId with
      | none =>
          rw [addToGroups, ht, idsOf_concat_of_none ht]
          apply List.map_congr_left
          intro id _
          rw [groupOf_concat_of_ne (ht ▸ (Option.some_ne_none id).symm)]
      | some id =>
          have hany :
              ((idsOf ts).map (groupOf ts)).any (fun g => g.id = id) = true ↔ id ∈ idsOf ts := by
            simp [id_groupOf]
          by_cases hid : id ∈ idsOf ts
          · -- The tag goes into the group of its id, and no other group changes.
            rw [addToGroups, ht, idsOf_concat_of_mem ht hid]
            simp only [hany.2 hid, if_true, List.map_map]
            apply List.map_congr_left
            intro id' _
            rw [Function.comp_apply, id_groupOf]
            by_cases heq : id' = id
            · rw [if_pos heq, heq, groupOf_concat_self ht]
            · have hne : t.blockId ≠ some id' := by
                rw [ht]
                exact fun hc => heq (Option.some.inj hc).symm
              rw [if_neg heq, groupOf_concat_of_ne hne]
          · have hno : ((idsOf ts).map (groupOf ts)).any (fun g => g.id = id) = false :=
              Bool.eq_false_iff.2 fun hc => hid (hany.1 hc)
            rw [addToGroups, ht, idsOf_concat_of_notMem ht hid, List.map_append]
            simp only [hno, Bool.false_eq_true, if_false, List.map_cons, List.map_nil]
            rw [groupOf_concat_self ht, groupOf_of_notMem hid]
            congr 1
            apply List.map_congr_left
            intro id' hid'
            have hne : t.blockId ≠ some id' := by
              rw [ht]
              exact fun hc => hid (Option.some.inj hc ▸ hid')
            rw [groupOf_concat_of_ne hne]

/-- Continuations are put behind those that are in the group. -/
theorem foldl_add_continuations {us : List PlacedTag}
    (h : ∀ t ∈ us, t.isStart = false ∧ t.isEnd = false ∧ t.isContinuation = true) (g : Group) :
    us.foldl Group.add g = { g with continuations := g.continuations ++ us } := by
  induction us generalizing g with
  | nil => simp
  | cons t us ih =>
      rcases h t List.mem_cons_self with ⟨hs, he, hc⟩
      have hadd : g.add t = { g with continuations := g.continuations ++ [t] } := by
        simp [Group.add, hs, he, hc]
      rw [List.foldl_cons, hadd, ih fun u hu => h u (List.mem_cons_of_mem _ hu)]
      simp

end Report

/-! ## Tags that were paired -/

namespace Pairing

/-- All tags of a roster were paired; those that take no part carry no block id.  Here `r` holds the
roles of the tags, `r₀` the tags as they were before, and `r'` the tags as they are now. -/
structure Complete (T : TagTables) (ids : IdSource) (r r₀ r' : Roster) : Prop where
  agree : r'.Agree r
  singleRole : ∀ k, k < r.length → (r.tag k).SingleRole
  assigned : ∀ k, k < r.length → (r.tag k).hasBlockRole = true →
    Assigned T ids r r₀ (List.range r.length) r' k
  fresh : ∀ k, k < r.length → (r.tag k).hasBlockRole = true →
    r₀.tag k = (r.tag k).mapTag Tag.reset
  idle : ∀ k, k < r.length → (r.tag k).hasBlockRole = false → (r'.tag k).blockId = none

namespace Complete

variable {T : TagTables} {ids : IdSource} {r r₀ r' : Roster} {i k : TagId}

theorem mem_openings : i ∈ r.openings (List.range r.length) ↔
    i < r.length ∧ (r.tag i).isStart = true := by
  rw [Roster.openings, List.mem_filter, List.mem_range]

/-- A tag carries the id of a block if it opens the block or belongs to it. -/
theorem blockId_eq_iff (h : Complete T ids r r₀ r') (hk : k < r.length)
    (hi : i ∈ r.openings (List.range r.length)) :
    (r'.tag k).blockId = some (ids.blockId r (List.range r.length) i) ↔
      r.Owner T (List.range r.length) k i := by
  constructor
  · intro hid
    cases hrole : (r.tag k).hasBlockRole with
    | false =>
        rw [h.idle k hk hrole] at hid
        cases hid
    | true =>
        have hassigned := h.assigned k hk hrole
        by_cases ho : ∃ j, r.Owner T (List.range r.length) k j
        · rcases ho with ⟨j, hj⟩
          rw [hassigned.blockId_of_owner List.nodup_range hj] at hid
          rw [IdSource.blockId_inj hi (Option.some.inj hid).symm]
          exact hj
        · have hnone : (r₀.tag k).blockId = none := by
            rw [h.fresh k hk hrole]
            rfl
          rw [hassigned.blockId_of_not_owner hnone fun j hj => ho ⟨j, hj⟩] at hid
          cases hid
  · intro ho
    exact (h.assigned k hk ho.hasBlockRole).blockId_of_owner List.nodup_range ho

/-- A tag that opens no block belongs to one if it carries an id. -/
theorem exists_host (h : Complete T ids r r₀ r') (hk : k < r.length)
    (hs : (r.tag k).isStart = false)
    (hid : (r'.tag k).blockId ≠ none) : ∃ i, r.Host T (List.range r.length) k i := by
  cases hrole : (r.tag k).hasBlockRole with
  | false => exact absurd (h.idle k hk hrole) hid
  | true =>
      cases h.assigned k hk hrole with
      | opens others hs' _ _ _ _ =>
          rw [hs] at hs'
          cases hs'
      | joins i hhost _ => exact ⟨i, hhost⟩
      | orphan _ _ htag =>
          rw [htag, h.fresh k hk hrole] at hid
          exact absurd rfl hid

/-- The ids of the tags up to some place are those of the opening tags up to this place, in order.
-/
theorem idsOf_prefix (h : Complete T ids r r₀ r') {pre post : List TagId}
    (hpre : List.range r.length = pre ++ post) : Report.idsOf (pre.map r'.tag) =
      (r.openings pre).map (ids.blockId r (List.range r.length)) := by
  induction pre using List.reverseRecOn generalizing post with
  | nil => rfl
  | append_singleton pre k ih =>
      have hsplit : List.range r.length = pre ++ k :: post := by simpa using hpre
      have hnodup : (pre ++ k :: post).Nodup := hsplit ▸ List.nodup_range
      have hk : k < r.length := by
        rw [← List.mem_range, hsplit]
        exact List.mem_append_right _ List.mem_cons_self
      have hkpre : k ∉ pre := by
        intro hmem
        exact (List.nodup_append.1 hnodup).2.2 k hmem k List.mem_cons_self rfl
      have hids := ih hsplit
      rw [List.map_append, List.map_cons, List.map_nil]
      cases hs : (r.tag k).isStart with
      | true =>
          -- The id of an opening tag is a new one.
          have hopening : k ∈ r.openings (List.range r.length) := mem_openings.2 ⟨hk, hs⟩
          have hid := (h.blockId_eq_iff hk hopening).2 (.inl ⟨rfl, hs⟩)
          have hnew : ids.blockId r (List.range r.length) k ∉ Report.idsOf (pre.map r'.tag) := by
            rw [hids]
            intro hmem
            rcases List.mem_map.1 hmem with ⟨j, hj, heq⟩
            rw [IdSource.blockId_inj hopening heq.symm] at hkpre
            exact hkpre (List.mem_of_mem_filter hj)
          rw [Report.idsOf_concat_of_notMem hid hnew, hids, Roster.openings_concat_of_isStart hs,
            List.map_append]
          rfl
      | false =>
          rw [Roster.openings_concat_of_not_isStart hs, ← hids]
          cases hid : (r'.tag k).blockId with
          | none => exact Report.idsOf_concat_of_none hid
          | some id =>
              -- A tag that carries an id belongs to an opening tag before it.
              apply Report.idsOf_concat_of_mem hid
              rcases h.exists_host hk hs (hid ▸ Option.some_ne_none id) with ⟨i, hhost⟩
              have hi : i ∈ r.openings (List.range r.length) :=
                List.mem_filter.2 ⟨hhost.mem.2, hhost.isStart⟩
              have hidi := (h.blockId_eq_iff hk hi).2 (.inr hhost)
              rw [hid] at hidi
              rw [hids, Option.some.inj hidi]
              apply List.mem_map_of_mem
              exact List.mem_filter.2 ⟨hhost.mem_of_split List.nodup_range hsplit, hhost.isStart⟩

end Complete

/-- The block that a tag opens: its continuations, and the tag that closes it. -/
structure BlockTags (T : TagTables) (r r' : Roster) (i : TagId) (conts : List TagId)
    (stop : Option TagId) : Prop where
  conts_roles : ∀ k ∈ conts, (r'.tag k).isStart = false ∧ (r'.tag k).isEnd = false ∧
    (r'.tag k).isContinuation = true
  stop_roles : ∀ k ∈ stop, (r'.tag k).isStart = false ∧ (r'.tag k).isEnd = true ∧
    (r'.tag k).isContinuation = false
  host : ∀ k, k ∈ conts ++ stop.toList ↔ r.Host T (List.range r.length) k i
  sublist : (i :: (conts ++ stop.toList)).Sublist (List.range r.length)
  related : (r'.tag i).related = conts ++ stop.toList
  outcome : (r'.tag i).outcome = .success ↔ stop.isSome = true

/-- Every opening tag opens a block. -/
theorem Complete.exists_blockTags {T : TagTables} {ids : IdSource} {r r₀ r' : Roster} {i : TagId}
    (h : Complete T ids r r₀ r') (hi : i < r.length) (hs : (r.tag i).isStart = true) :
    ∃ conts stop, BlockTags T r r' i conts stop := by
  rcases (h.assigned i hi (Tag.hasBlockRole_of_isStart hs)).of_isStart
    hs with ⟨others, hhost, hsub, htrail, htag⟩
  rcases htrail with ⟨conts, stop, rfl, hconts, hstop⟩
  have hstart {k : TagId} (hk : k ∈ conts ++ stop.toList) : (r'.tag k).isStart = false :=
    (h.agree.isStart k).trans ((hhost k).1 hk).isStart_eq_false
  refine ⟨conts, stop, {
    conts_roles := ?conts
    stop_roles := ?stop
    host := hhost
    sublist := hsub
    related := ?related
    outcome := ?outcome }⟩
  case conts =>
    intro k hk
    refine ⟨hstart (List.mem_append_left _ hk), ?_, ?_⟩
    · rw [h.agree.isEnd, (hconts k hk).2]
    · rw [h.agree.isContinuation, (hconts k hk).1]
  case stop =>
    intro k hk
    refine ⟨hstart (List.mem_append_right _ (Option.mem_toList.2 hk)), ?_, ?_⟩
    · rw [h.agree.isEnd, (hstop k hk).1]
    · rw [h.agree.isContinuation, (hstop k hk).2]
  case related =>
    rw [htag]
    unfold Tag.heading
    split
    · rfl
    · rfl
  case outcome =>
    have hany : ((conts ++ stop.toList).any fun j => (r.tag j).isEnd) = stop.isSome := by
      have hno : (conts.any fun j => (r.tag j).isEnd) = false := by
        rw [List.any_eq_false]
        intro j hj
        rw [(hconts j hj).2]
        exact Bool.false_ne_true
      rw [List.any_append, hno, Bool.false_or]
      cases stop with
      | none => rfl
      | some j => simp [(hstop j rfl).1]
    -- The opening tag has failed if there is no closing tag.
    rw [htag, hany]
    cases stop with
    | none =>
        constructor
        · intro ho
          cases ho
        · intro ho
          cases ho
    | some j =>
        constructor
        · intro _
          rfl
        · intro _
          rfl

end Pairing

/-! ## Entries -/

namespace Report

/-- The entry tells of the block that a tag opens, in terms of the tags that this tag is related to.
-/
structure Block.Describes (r : Roster) (b : Block) (i : TagId) : Prop where
  id : (r.tag i).blockId = some b.id
  blockType : b.blockType = (r.tag i).name
  start : b.start = (r.tag i).raw
  line : b.line = (r.tag i).line?
  continuations : b.continuations =
    ((r.tag i).related.filter fun j => (r.tag j).isContinuation).map fun j => (r.tag j).raw
  /-- One of the related tags closes the block at most. -/
  stop : b.stop.toList =
    ((r.tag i).related.filter fun j => (r.tag j).isEnd).map fun j => (r.tag j).raw
  isClosed : b.isClosed = true ↔ (r.tag i).outcome = .success
  /-- The tags that carry the id of the block are those that are listed, and the opening tag. -/
  holds : ∀ k, k < r.length → ((r.tag k).blockId = some b.id ↔ k = i ∨ k ∈ (r.tag i).related)

end Report

namespace Pairing

variable {T : TagTables} {ids : IdSource} {r r₀ r' : Roster} {i k : TagId} {conts : List TagId}
  {stop : Option TagId}

namespace BlockTags

/-- The tags that carry the id of a block are those of the block. -/
theorem blockId_eq_iff (hb : BlockTags T r r' i conts stop) (h : Complete T ids r r₀ r')
    (hi : i ∈ r.openings (List.range r.length)) (hk : k < r.length) :
    (r'.tag k).blockId = some (ids.blockId r (List.range r.length) i) ↔
      k = i ∨ k ∈ conts ++ stop.toList := by
  rw [h.blockId_eq_iff hk hi, Roster.Owner, hb.host k]
  constructor
  · rintro (⟨rfl, _⟩ | hk)
    · exact .inl rfl
    · exact .inr hk
  · rintro (rfl | hk)
    · exact .inl ⟨rfl, (Complete.mem_openings.1 hi).2⟩
    · exact .inr hk

/-- The tags that carry the id of a block are picked in the order of the document. -/
theorem filter_eq (hb : BlockTags T r r' i conts stop) (h : Complete T ids r r₀ r')
    (hi : i ∈ r.openings (List.range r.length)) :
    r'.filter (fun t => t.blockId = some (ids.blockId r (List.range r.length) i)) =
      (i :: (conts ++ stop.toList)).map r'.tag := by
  rw [r'.filter_eq_map_tag, h.agree.length_eq]
  congr 1
  apply eq_of_sublist List.filter_sublist hb.sublist List.nodup_range
  intro k
  rw [List.mem_filter, List.mem_range, decide_eq_true_iff, List.mem_cons]
  constructor
  · rintro ⟨hk, hid⟩
    exact (hb.blockId_eq_iff h hi hk).1 hid
  · intro hk
    have hlt : k < r.length := List.mem_range.1 (hb.sublist.subset (List.mem_cons.2 hk))
    exact ⟨hlt, (hb.blockId_eq_iff h hi hlt).2 hk⟩

/-- The group of the id of a block holds the tags of the block by their roles. -/
theorem groupOf_eq (hb : BlockTags T r r' i conts stop) (h : Complete T ids r r₀ r')
    (hi : i ∈ r.openings (List.range r.length)) :
    Report.groupOf r' (ids.blockId r (List.range r.length) i) =
      ⟨ids.blockId r (List.range r.length) i, some (r'.tag i), conts.map r'.tag,
        stop.map r'.tag⟩ := by
  have hs : (r'.tag i).isStart = true :=
    (h.agree.isStart i).trans (Complete.mem_openings.1 hi).2
  have hopening : Report.Group.add { id := ids.blockId r (List.range r.length) i } (r'.tag i) =
      { id := ids.blockId r (List.range r.length) i, start := some (r'.tag i) } := by
    rw [Report.Group.add, if_pos hs]
  have hcontinuations : ∀ t ∈ conts.map r'.tag,
      t.isStart = false ∧ t.isEnd = false ∧ t.isContinuation = true := by
    intro t ht
    rcases List.mem_map.1 ht with ⟨k, hk, rfl⟩
    exact hb.conts_roles k hk
  rw [Report.groupOf, hb.filter_eq h hi, List.map_cons, List.map_append, List.foldl_cons, hopening,
    List.foldl_append, Report.foldl_add_continuations hcontinuations, List.nil_append]
  cases stop with
  | none => rfl
  | some k =>
      rcases hb.stop_roles k rfl with ⟨hks, hke, _⟩
      simp [Report.Group.add, hks, hke]

/-- The roles of the related tags tell the continuations from the closing tag. -/
theorem filter_related (hb : BlockTags T r r' i conts stop) :
    (r'.tag i).related.filter (fun j => (r'.tag j).isContinuation) = conts ∧
      (r'.tag i).related.filter (fun j => (r'.tag j).isEnd) = stop.toList := by
  have hstop {k : TagId} (hk : k ∈ stop.toList) := hb.stop_roles k (Option.mem_toList.1 hk)
  rw [hb.related, List.filter_append, List.filter_append]
  constructor
  · have hall : conts.filter (fun j => (r'.tag j).isContinuation) = conts :=
      List.filter_eq_self.2 fun k hk => (hb.conts_roles k hk).2.2
    have hnone : stop.toList.filter (fun j => (r'.tag j).isContinuation) = [] :=
      List.filter_eq_nil_iff.2 fun k hk => by simp [(hstop hk).2.2]
    rw [hall, hnone, List.append_nil]
  · have hnone : conts.filter (fun j => (r'.tag j).isEnd) = [] :=
      List.filter_eq_nil_iff.2 fun k hk => by simp [(hb.conts_roles k hk).2.1]
    have hall : stop.toList.filter (fun j => (r'.tag j).isEnd) = stop.toList :=
      List.filter_eq_self.2 fun k hk => (hstop hk).2.1
    rw [hall, hnone, List.nil_append]

end BlockTags

namespace Complete

/-- The group of an opening tag makes an entry, which tells of the block. -/
theorem exists_describes (h : Complete T ids r r₀ r')
    (hi : i ∈ r.openings (List.range r.length)) :
    ∃ b, (Report.groupOf r' (ids.blockId r (List.range r.length) i)).block? = some b ∧
      b.Describes r' i := by
  rcases mem_openings.1 hi with ⟨hlt, hs⟩
  rcases h.exists_blockTags hlt hs with ⟨conts, stop, hb⟩
  rcases hb.filter_related with ⟨hconts, hstop⟩
  refine ⟨_, by rw [hb.groupOf_eq h hi]; rfl, ?_⟩
  refine {
    id := (hb.blockId_eq_iff h hi hlt).2 (.inl rfl)
    blockType := rfl
    start := rfl
    line := rfl
    continuations := ?continuations
    stop := ?stop
    isClosed := ?isClosed
    holds := ?holds }
  case continuations =>
    rw [hconts, List.map_map]
    rfl
  case stop =>
    rw [hstop]
    cases stop with
    | none => rfl
    | some k => rfl
  case isClosed =>
    rw [hb.outcome]
    cases stop with
    | none => rfl
    | some k => rfl
  case holds =>
    intro k hk
    rw [hb.related]
    exact hb.blockId_eq_iff h hi (h.agree.length_eq ▸ hk)

/-- There is one entry for each opening tag, in the order of the document. -/
theorem forall₂_blocksOf (h : Complete T ids r r₀ r') :
    List.Forall₂ (fun b i => b.Describes r' i) (Report.blocksOf r')
      (r.openings (List.range r.length)) := by
  have hids : Report.idsOf ((List.range r.length).map r'.tag) =
      (r.openings (List.range r.length)).map (ids.blockId r (List.range r.length)) :=
    h.idsOf_prefix (List.append_nil _).symm
  rw [← h.agree.length_eq, r'.map_tag_range, h.agree.length_eq] at hids
  rw [Report.blocksOf, Report.foldl_addToGroups, hids]
  have hdescribes : ∀ i ∈ r.openings (List.range r.length), ∃ b,
      (Report.groupOf r' (ids.blockId r (List.range r.length) i)).block? = some b ∧
        b.Describes r' i :=
    fun i hi => h.exists_describes hi
  generalize r.openings (List.range r.length) = is at hdescribes
  induction is with
  | nil => exact .nil
  | cons i is ih =>
      rcases hdescribes i List.mem_cons_self with ⟨b, hb, hdescribes'⟩
      rw [List.map_cons, List.map_cons, List.filterMap_cons_some hb]
      exact .cons hdescribes' (ih fun j hj => hdescribes j (List.mem_cons_of_mem _ hj))

/-- The entries have the ids that the opening tags get. -/
theorem ids_blocksOf (h : Complete T ids r r₀ r') : (Report.blocksOf r').map (·.id) =
    (r.openings (List.range r.length)).map (ids.blockId r (List.range r.length)) := by
  have hblocks := h.forall₂_blocksOf
  have hid : ∀ i ∈ r.openings (List.range r.length),
      (r'.tag i).blockId = some (ids.blockId r (List.range r.length) i) := by
    intro i hi
    rcases mem_openings.1 hi with ⟨hlt, hs⟩
    exact (h.blockId_eq_iff hlt hi).2 (.inl ⟨rfl, hs⟩)
  generalize r.openings (List.range r.length) = is at hblocks hid
  generalize Report.blocksOf r' = bs at hblocks
  induction hblocks with
  | nil => rfl
  | @cons b i bs is hdescribes _ ih =>
      have hb := hid i List.mem_cons_self
      rw [hdescribes.id] at hb
      rw [List.map_cons, List.map_cons, Option.some.inj hb,
        ih fun j hj => hid j (List.mem_cons_of_mem _ hj)]

/-- A closing tag or a continuation carries the id of no block exactly if it has failed. -/
theorem unlisted_iff (h : Complete T ids r r₀ r') (hk : k < r.length)
    (hrole : (r.tag k).isEnd = true ∨ (r.tag k).isContinuation = true) :
    (∀ i ∈ r.openings (List.range r.length), (r'.tag k).blockId ≠
      some (ids.blockId r (List.range r.length) i)) ↔ (r'.tag k).outcome = .failed := by
  have hs : (r.tag k).isStart = false := by
    apply Bool.eq_false_iff.2
    intro hs
    rcases (h.singleRole k hk).of_isStart hs with ⟨he, hc⟩
    rcases hrole with hrole | hrole
    · rw [he] at hrole
      cases hrole
    · rw [hc] at hrole
      cases hrole
  have hblock : (r.tag k).hasBlockRole = true := by
    rcases hrole with hrole | hrole
    · exact Tag.hasBlockRole_of_isEnd hrole
    · exact Tag.hasBlockRole_of_isContinuation hrole
  cases h.assigned k hk hblock with
  | opens others hs' _ _ _ _ =>
      rw [hs] at hs'
      cases hs'
  | joins i hhost htag =>
      -- The tag carries the id of its block, and was read.
      have hi : i ∈ r.openings (List.range r.length) :=
        List.mem_filter.2 ⟨hhost.mem.2, hhost.isStart⟩
      constructor
      · intro hno
        exact absurd ((h.blockId_eq_iff hk hi).2 (.inr hhost)) (hno i hi)
      · intro hfailed
        rw [htag] at hfailed
        cases hfailed
  | orphan _ hhost htag =>
      constructor
      · intro _
        rw [htag]
        rfl
      · intro _ i _
        rw [htag, h.fresh k hk hblock]
        exact (Option.some_ne_none _).symm

end Complete
end Pairing

/-! ## Reports -/

/-- The entries list the blocks of a roster: each opening tag has one, in document order, with an id
of its own, and another block tag is in none exactly if it has failed. -/
structure Report.Lists (r : Roster) (bs : List Report.Block) : Prop where
  describes : List.Forall₂ (fun b i => b.Describes r i) bs (r.openings (List.range r.length))
  nodup_ids : (bs.map (·.id)).Nodup
  unlisted : ∀ k, k < r.length → (r.tag k).isEnd = true ∨ (r.tag k).isContinuation = true →
    ((∀ b ∈ bs, (r.tag k).blockId ≠ some b.id) ↔ (r.tag k).outcome = .failed)

/-- The report of tags that were paired lists their blocks. -/
theorem Pairing.Complete.lists_blocksOf {T : TagTables} {ids : IdSource} {r r₀ r' : Roster}
    (h : Complete T ids r r₀ r') : Report.Lists r' (Report.blocksOf r') where
  describes := by
    have hopenings : r'.openings (List.range r'.length) = r.openings (List.range r.length) := by
      rw [h.agree.length_eq]
      exact List.filter_congr fun i _ => h.agree.isStart i
    rw [hopenings]
    exact h.forall₂_blocksOf
  nodup_ids := by
    rw [h.ids_blocksOf]
    refine List.Nodup.map_on ?_ (List.nodup_range.filter _)
    intro i hi j _ hij
    exact IdSource.blockId_inj hi hij
  unlisted k hk hrole := by
    rw [h.agree.length_eq] at hk
    rw [h.agree.isEnd, h.agree.isContinuation] at hrole
    have hids : (∀ b ∈ Report.blocksOf r', (r'.tag k).blockId ≠ some b.id) ↔
        ∀ id ∈ (Report.blocksOf r').map (·.id), (r'.tag k).blockId ≠ some id := by
      rw [List.forall_mem_map]
    rw [hids, h.ids_blocksOf, List.forall_mem_map]
    exact h.unlisted_iff hk hrole

/-- All tags of an annotated document were paired, if splitting found them in document order. -/
theorem exists_complete_of_annotate {T : TagTables} {source : Option Text} {n m s : Node}
    (h : annotate T source (some n) = .ok m)
    (hs : segmentTree T (source.map .ofText) (some n) = .ok s) (hf : ∀ l ∈ s.labels, l.Found)
    (ho : s.roster.Ordered) : ∃ r r₀, Pairing.Complete T {} r r₀ m.roster := by
  rcases exists_segmentTree_of_annotate h with ⟨s', hs', hbare, htags⟩
  cases hs.symm.trans hs'
  have hpositions : m.roster.map (·.position) = (s.map (Label.read T)).roster.map (·.position) :=
    (Node.positions_roster_of_map_bare hbare).trans
      (Node.positions_roster_of_map_bare (Node.map_bare_map (Label.bare_read T) s)).symm
  have hordered : (s.map (Label.read T)).roster.Ordered :=
    Node.roster_map_read T s ▸ ho.map _
  have hfound {t : PlacedTag} := Node.exists_read_of_mem_roster (T := T) (t := t) hf
  generalize (s.map (Label.read T)).roster = r at htags hpositions hordered hfound
  have hread (i : TagId) (hi : i < r.length) :
      ∃ raw : Text, (r.tag i).toTag = Tag.read T { raw := raw } := by
    rcases hfound (Roster.tag_mem hi) with ⟨raw, _, ht⟩
    exact ⟨raw, ht⟩
  have hrole (i : TagId) (hi : i < r.length) : (r.tag i).SingleRole := by
    rcases hread i hi with ⟨raw, ht⟩
    rw [ht]
    exact (Tag.prepared_read T fun _ => rfl).singleRole
  have hsettled (i : TagId) : (r.tag i).Settled := by
    by_cases hi : i < r.length
    · rcases hread i hi with ⟨raw, ht⟩
      rw [ht]
      exact Tag.settled_read T fun _ hsuccess => by cases hsuccess
    · rw [Roster.tag_of_length_le (Nat.le_of_not_lt hi)]
      intro hsuccess
      cases hsuccess
  -- The check changes nothing, and neither does putting the tags back into the tree.
  have hroster : m.roster = (Pairing.associate T {} r (List.range r.length)).1 := by
    rw [← Pairing.checked_run (fun i hi => hrole i (List.mem_range.1 hi)) hsettled]
    exact Roster.ext_toTag ((Node.map_toTag_roster m).trans htags)
      (hpositions.trans (Pairing.agree_run T r).map_position.symm)
  have hlt (i : TagId) (hi : i ∈ List.range r.length) : i < r.length := List.mem_range.1 hi
  have hassociated := Pairing.associated_of_singleRole (T := T) {} List.nodup_range hlt
    fun i hi => hrole i (hlt i hi)
  rw [hroster]
  refine ⟨r, Pairing.fresh r (List.range r.length), {
    agree := hassociated.agree
    singleRole := hrole
    assigned := ?assigned
    fresh := ?fresh
    idle := ?idle }⟩
  case assigned =>
    intro k hk hblock
    have hassigned := Pairing.assigned_associate T {} List.nodup_range hlt
      (fun i hi => hrole i (hlt i hi)) (List.mem_range.2 hk) hblock
    rwa [hordered.inDocumentOrder_range] at hassigned
  case fresh =>
    intro k hk hblock
    exact Pairing.tag_fresh List.nodup_range (List.mem_range.2 hk) hk hblock
  case idle =>
    intro k hk hblock
    rcases hread k hk with ⟨raw, ht⟩
    rw [hassociated.untouched k fun _ => hblock, Pairing.tag_fresh_of_bystander _ hblock, ht,
      Tag.blockId_read]

/-- Whatever elements a source is taken for, the report of its document lists its blocks: each
opening tag has one entry, in document order and with an id of its own, which tells what the tag is
related to; and a closing tag or a continuation is in no entry exactly if it has failed. -/
theorem annotate_ofElement_listed (T : TagTables) (source : Text) (e : Markdown.Element) :
    ∃ m, annotate T (some source) (some (Node.ofElement source e)) = .ok m ∧
      Report.Lists m.roster (Report.ofTree m).blocks := by
  rcases exists_annotate T (some source) (Node.annotatable_ofElement source e) with ⟨m, hm⟩
  rcases exists_segmentTree_of_annotate hm with ⟨s, hs, _, _⟩
  have hfound := Node.found_of_segmentTree (Node.plain_ofElement source e) hs
  rcases exists_complete_of_annotate hm hs hfound (Node.apart_of_segmentTree hs).ordered with
    ⟨r, r₀, hcomplete⟩
  exact ⟨m, hm, hcomplete.lists_blocksOf⟩

end LiquidMarkdown
