import LiquidMarkdown.Proofs.Pairing.Assignment

/-!
# Block types apart

Which tags belong together is found out for each block type by itself.  So the tags of one type can
be paired without the others, and come out as they do among the others; only the blocks get other
numbers.  This file defines:

* `Brackets.opened_filter` — letters that are no brackets can be left out;
* `Tag.concerns` — a tag opens, closes or continues blocks of a type;
* `Roster.concerning` — the tags of one type among some, `Roster.owner_concerning`;
* `Roster.Increasing` — tags are given in document order;
* `Roster.SameButNumbers` — some tags came out alike, but for the numbers of their blocks;
* `associate_concerning` — the tags of one type come out so with the others and without them.
-/

namespace LiquidMarkdown

/-! ## Brackets -/

/-- Letters that are no brackets can be left out. -/
theorem Brackets.opened_filter {α : Type} {b : Brackets α} {p : α → Bool}
    (h : ∀ a, p a = false → b.opens a = false ∧ b.closes a = false) (w : List α) :
    b.opened (w.filter p) = b.opened w := by
  induction w using List.reverseRecOn with
  | nil => rfl
  | append_singleton w a ih =>
      cases hp : p a with
      | true =>
          have hfilter : (w ++ [a]).filter p = w.filter p ++ [a] := by simp [hp]
          rw [hfilter, opened_concat, opened_concat, ih]
      | false =>
          rcases h a hp with ⟨ho, hc⟩
          have hfilter : (w ++ [a]).filter p = w.filter p := by simp [hp]
          rw [hfilter, opened_concat, next_of_neither ho hc, ih]

/-! ## Tags of one type -/

namespace Tag

variable {T : TagTables} {X : Text} {t : Tag}

/-- The tag opens, closes or continues blocks of the given type. -/
def concerns (T : TagTables) (X : Text) (t : Tag) : Bool :=
  (t.isStart && t.name = X) || (t.isEnd && blockOfEnd t.name = X) ||
    (t.isContinuation && T.parent? t.name = some X)

theorem hasBlockRole_of_concerns (h : t.concerns T X = true) : t.hasBlockRole = true := by
  simp only [concerns, Bool.or_eq_true, Bool.and_eq_true] at h
  rcases h with (⟨hs, _⟩ | ⟨he, _⟩) | ⟨hc, _⟩
  · exact hasBlockRole_of_isStart hs
  · exact hasBlockRole_of_isEnd he
  · exact hasBlockRole_of_isContinuation hc

theorem concerns_of_joins? (h : t.joins? T = some X) : t.concerns T X = true := by
  unfold joins? at h
  split at h
  · cases h
  · split at h
    · next he => simp [concerns, he, Option.some.inj h]
    · split at h
      · next hc => simp [concerns, hc, h]
      · cases h

/-- A tag of one role concerns the type of the blocks that it opens, or that of the blocks that it
closes or continues. -/
theorem SingleRole.concerns_iff (hr : t.SingleRole) : t.concerns T X = true ↔
    t.isStart = true ∧ t.name = X ∨ t.isStart = false ∧ t.joins? T = some X := by
  cases hs : t.isStart with
  | true =>
      rcases hr.of_isStart hs with ⟨he, hc⟩
      simp [concerns, hs, he, hc]
  | false =>
      cases he : t.isEnd with
      | true =>
          rcases hr.of_isEnd he with ⟨_, hc⟩
          simp [concerns, joins?, hs, he, hc]
      | false => cases hc : t.isContinuation with
        | false | true => simp [concerns, joins?, hs, he, hc]

end Tag

namespace Roster

variable {r : Roster} {T : TagTables} {X : Text} {ps : List TagId} {i k : TagId}

/-- The tags among the given ones that concern one block type. -/
def concerning (r : Roster) (T : TagTables) (X : Text) (ps : List TagId) : List TagId :=
  ps.filter fun i => (r.tag i).concerns T X

theorem concerning_sublist (r : Roster) (T : TagTables) (X : Text) (ps : List TagId) :
    (r.concerning T X ps).Sublist ps :=
  List.filter_sublist

theorem mem_concerning : k ∈ r.concerning T X ps ↔ k ∈ ps ∧ (r.tag k).concerns T X = true :=
  List.mem_filter

/-- A tag that does not concern a type is no bracket of it. -/
theorem neither_of_concerns (h : (r.tag i).concerns T X = false) :
    (r.brackets X).opens i = false ∧ (r.brackets X).closes i = false := by
  simp only [Tag.concerns, Bool.or_eq_false_iff] at h
  rcases h with ⟨⟨hs, he⟩, _⟩
  constructor
  · exact hs
  · simp only [brackets, Bool.and_assoc, he, Bool.and_false]

/-- Tags of other types do not change which opening tag is the innermost one. -/
theorem host?_concerning (h : (r.tag k).joins? T = some X) (ps : List TagId) :
    r.host? T (r.concerning T X ps) k = r.host? T ps k := by
  have hopened : (r.brackets X).opened (r.concerning T X ps) = (r.brackets X).opened ps :=
    Brackets.opened_filter (fun _ ha => neither_of_concerns ha) ps
  rw [host?, host?, h, Option.bind_some, Option.bind_some, hopened]

/-- What a tag belongs to is found among the tags of its own type. -/
theorem host_concerning_of_joins? (h : (r.tag k).joins? T = some X) :
    r.Host T (r.concerning T X ps) k i ↔ r.Host T ps k i := by
  constructor
  · rintro ⟨pre, post, hps, hhost⟩
    rcases List.filter_eq_append_iff.1 hps with ⟨l, l', rfl, rfl, hl'⟩
    rcases List.filter_eq_cons_iff.1 hl' with ⟨mid, rest, rfl, hmid, _, _⟩
    -- The tags between belong to other types.
    have hpre : r.concerning T X (l ++ mid) = r.concerning T X l := by
      rw [concerning, List.filter_append, List.filter_eq_nil_iff.2 hmid, List.append_nil]
      rfl
    refine ⟨l ++ mid, rest, by simp, ?_⟩
    rw [← host?_concerning h, hpre]
    exact hhost
  · rintro ⟨pre, post, rfl, hhost⟩
    refine ⟨r.concerning T X pre, r.concerning T X post, ?_, ?_⟩
    · have hk : r.concerning T X (k :: post) = k :: r.concerning T X post :=
        List.filter_cons_of_pos (Tag.concerns_of_joins? h)
      rw [← hk]
      exact List.filter_append ..
    · rw [host?_concerning h]
      exact hhost

theorem host_concerning (hr : (r.tag k).SingleRole) (hk : (r.tag k).concerns T X = true) :
    r.Host T (r.concerning T X ps) k i ↔ r.Host T ps k i := by
  rcases hr.concerns_iff.1 hk with ⟨hs, _⟩ | ⟨_, hX⟩
  · -- An opening tag belongs to no other tag, among whatever tags it stands.
    constructor
    · intro hhost
      rw [hhost.isStart_eq_false] at hs
      cases hs
    · intro hhost
      rw [hhost.isStart_eq_false] at hs
      cases hs
  · exact host_concerning_of_joins? hX

/-- The tags that belong to an opening tag are of its own type. -/
theorem host_concerning_of_name (h : (r.tag i).name = X) :
    r.Host T (r.concerning T X ps) k i ↔ r.Host T ps k i := by
  constructor
  · intro hhost
    exact (host_concerning_of_joins? (h ▸ hhost.joins?_eq)).1 hhost
  · intro hhost
    exact (host_concerning_of_joins? (h ▸ hhost.joins?_eq)).2 hhost

theorem owner_concerning (hr : (r.tag k).SingleRole) (hk : (r.tag k).concerns T X = true) :
    r.Owner T (r.concerning T X ps) k i ↔ r.Owner T ps k i := by
  unfold Owner
  rw [host_concerning hr hk]

/-! ## Document order -/

/-- The tags are given in document order: none of them has a position, or their offsets increase. -/
def Increasing (r : Roster) (is : List TagId) : Prop :=
  (∀ i ∈ is, (r.tag i).position = none) ∨
    is.Pairwise fun i j => ∃ a b, (r.tag i).offset? = some a ∧ (r.tag j).offset? = some b ∧ a < b

theorem Increasing.sublist {is js : List TagId} (h : r.Increasing is) (hs : js.Sublist is) :
    r.Increasing js :=
  h.imp (fun hnone i hi => hnone i (hs.subset hi)) fun hlt => hlt.sublist hs

/-- Tags that are given in document order are not moved by sorting them. -/
theorem Increasing.inDocumentOrder_eq {is : List TagId} (h : r.Increasing is) :
    r.inDocumentOrder is = is := by
  unfold inDocumentOrder
  split
  · next hplaced =>
      apply List.mergeSort_of_pairwise
      rcases h with hnone | hlt
      · -- Every tag has a position and none has one, so there are no tags.
        cases is with
        | nil => exact .nil
        | cons i is =>
            have hsome := List.all_eq_true.1 hplaced i List.mem_cons_self
            rw [PlacedTag.offset?, hnone i List.mem_cons_self] at hsome
            cases hsome
      · apply hlt.imp
        rintro i j ⟨a, b, ha, hb, hab⟩
        rw [ha, hb, Option.getD_some, Option.getD_some]
        exact decide_eq_true (Int.le_of_lt hab)
  · rfl

end Roster

/-! ## Numbers -/

/-- The tag with another number in its block ids. -/
def Tag.renumber (ids : Pairing.IdSource) (X : Text) (n : Nat) (t : Tag) : Tag :=
  { t with
    blockId := t.blockId.map fun _ => ids.idOf X n
    matchingId := t.matchingId.map fun _ => ids.idOf X n }

/-- Some tags of one block type came out alike in two rosters.  They are the same but for the
numbers in their block ids, and two of them have the same id in one roster if they have it in the
other. -/
structure Roster.SameButNumbers (ids : Pairing.IdSource) (X : Text) (ks : List TagId)
    (r r' : Roster) : Prop where
  tag : ∀ k ∈ ks, ∃ m n, (r.tag k).mapTag (Tag.renumber ids X m) = r.tag k ∧
    (r.tag k).mapTag (Tag.renumber ids X n) = r'.tag k
  blockId : ∀ k ∈ ks, ∀ l ∈ ks,
    ((r.tag k).blockId = (r.tag l).blockId ↔ (r'.tag k).blockId = (r'.tag l).blockId)

namespace Pairing

variable {T : TagTables} {ids : IdSource} {X : Text} {r r₀ s₀ r' s' : Roster} {ps is : List TagId}
  {k : TagId}

/-- A tag that is paired among the tags of its own type comes out as it does among all tags, but for
the number of its block. -/
theorem Assigned.renumbered {used : Nat} (h : Assigned T ids r r₀ ps r' k)
    (hX : Assigned T { ids with used := used } r s₀ (r.concerning T X ps) s' k) (hn : ps.Nodup)
    (hr : (r.tag k).SingleRole) (hk : (r.tag k).concerns T X = true)
    (hr₀ : r₀.tag k = (r.tag k).mapTag Tag.reset) (hs₀ : s₀.tag k = (r.tag k).mapTag Tag.reset) :
    ∃ m n, (r'.tag k).mapTag (Tag.renumber ids X m) = r'.tag k ∧
      (r'.tag k).mapTag (Tag.renumber ids X n) = s'.tag k := by
  have hsub := r.concerning_sublist T X ps
  have hnX : (r.concerning T X ps).Nodup := hn.sublist hsub
  -- The number that the block of an opening tag gets.
  let number (ids : IdSource) (ps : List TagId) (i : TagId) : Nat :=
    ids.used + (r.openings ps).idxOf i + 1
  cases h with
  | opens others hs hhost hothers _ htag =>
      have hname : (r.tag k).name = X := by
        rcases hr.concerns_iff.1 hk with ⟨_, hname⟩ | ⟨hs', _⟩
        · exact hname
        · rw [hs] at hs'
          cases hs'
      rcases hX.of_isStart hs with ⟨others', hhost', hothers', _, htag'⟩
      have heq : others' = others := by
        apply eq_of_sublist ((List.sublist_cons_self k _).trans (hothers'.trans hsub))
          ((List.sublist_cons_self k _).trans hothers) hn
        intro j
        rw [hhost', hhost, Roster.host_concerning_of_name hname]
      refine ⟨number ids ps k, number { ids with used := used } (r.concerning T X ps) k, ?_, ?_⟩
      · rw [htag, hr₀, IdSource.blockId, hname]
        unfold Tag.heading
        split
        · rfl
        · rfl
      · rw [htag', htag, hr₀, hs₀, IdSource.blockId, IdSource.blockId, hname, heq]
        unfold Tag.heading
        split
        · rfl
        · rfl
  | joins i hhost htag =>
      have hname : (r.tag i).name = X := by
        rcases hr.concerns_iff.1 hk with ⟨hs, _⟩ | ⟨_, hjoins⟩
        · rw [hhost.isStart_eq_false] at hs
          cases hs
        · exact Option.some.inj (hhost.joins?_eq.symm.trans hjoins)
      have htag' := hX.of_host hnX ((Roster.host_concerning hr hk).2 hhost)
      refine ⟨number ids ps i, number { ids with used := used } (r.concerning T X ps) i, ?_, ?_⟩
      · rw [htag, hr₀, IdSource.blockId, hname]
        rfl
      · rw [htag', htag, hr₀, hs₀, IdSource.blockId, IdSource.blockId, hname]
        rfl
  | orphan hs hhost htag =>
      have htag' := hX.of_not_host hs fun i hi => hhost i ((Roster.host_concerning hr hk).1 hi)
      refine ⟨0, 0, ?_, ?_⟩
      · rw [htag, hr₀]
        rfl
      · rw [htag', htag, hr₀, hs₀]
        rfl

/-- Tags that are given in document order are paired, and those of one block type once more without
the others.  The tags of this type come out alike, but for the numbers of their blocks. -/
theorem associate_concerning (T : TagTables) (ids : IdSource) (used : Nat) (X : Text)
    (hn : is.Nodup)
    (hlt : ∀ i ∈ is, i < r.length) (hr : ∀ i ∈ is, (r.tag i).SingleRole) (ho : r.Increasing is) :
    Roster.SameButNumbers ids X (r.concerning T X is) (associate T ids r is).1
      (associate T { ids with used := used } r (r.concerning T X is)).1 := by
  have hsub := r.concerning_sublist T X is
  have hnX : (r.concerning T X is).Nodup := hn.sublist hsub
  have hltX (i : TagId) (hi : i ∈ r.concerning T X is) : i < r.length := hlt i (hsub.subset hi)
  have hrX (i : TagId) (hi : i ∈ r.concerning T X is) : (r.tag i).SingleRole :=
    hr i (hsub.subset hi)
  have hconcerns {k : TagId} (hk : k ∈ r.concerning T X is) : (r.tag k).concerns T X = true :=
    (Roster.mem_concerning.1 hk).2
  have hrole {k : TagId} (hk : k ∈ r.concerning T X is) : (r.tag k).hasBlockRole = true :=
    Tag.hasBlockRole_of_concerns (hconcerns hk)
  -- Both runs wipe out the same, and write what the tags before tell.
  have hwhole {k : TagId} (hk : k ∈ r.concerning T X is) :
      Assigned T ids r (fresh r is) is (associate T ids r is).1 k := by
    have hassigned := assigned_associate T ids hn hlt hr (hsub.subset hk) (hrole hk)
    rwa [ho.inDocumentOrder_eq] at hassigned
  have hpart {k : TagId} (hk : k ∈ r.concerning T X is) :
      Assigned T { ids with used := used } r (fresh r (r.concerning T X is)) (r.concerning T X is)
        (associate T { ids with used := used } r (r.concerning T X is)).1 k := by
    have hassigned := assigned_associate T { ids with used := used } hnX hltX hrX hk (hrole hk)
    rwa [(ho.sublist hsub).inDocumentOrder_eq] at hassigned
  have hfresh {k : TagId} (hk : k ∈ r.concerning T X is) :
      (fresh r is).tag k = (r.tag k).mapTag Tag.reset :=
    tag_fresh hn (hsub.subset hk) (hltX k hk) (hrole hk)
  have hfreshX {k : TagId} (hk : k ∈ r.concerning T X is) :
      (fresh r (r.concerning T X is)).tag k = (r.tag k).mapTag Tag.reset :=
    tag_fresh hnX hk (hltX k hk) (hrole hk)
  have hnone {s : Roster} {k : TagId} (hs : s.tag k = (r.tag k).mapTag Tag.reset) :
      (s.tag k).blockId = none := by
    rw [hs]
    rfl
  constructor
  · intro k hk
    exact (hwhole hk).renumbered (hpart hk) hn (hrX k hk) (hconcerns hk) (hfresh hk) (hfreshX hk)
  · intro k hk l hl
    rw [(hwhole hk).blockId_eq_iff (hwhole hl) hn (hsub.subset hk) (hnone (hfresh hk))
        (hnone (hfresh hl)),
      (hpart hk).blockId_eq_iff (hpart hl) hnX hk (hnone (hfreshX hk)) (hnone (hfreshX hl))]
    -- In both runs the ids tell the owners, and these are the same.
    apply forall_congr'
    intro i
    rw [Roster.owner_concerning (hrX k hk) (hconcerns hk),
      Roster.owner_concerning (hrX l hl) (hconcerns hl)]

/-- A loop that crosses another block is paired with that block and without it. -/
theorem associate_concerning_crossing :
    ([0, 1, 2, 3, 4, 5] : List TagId).Nodup ∧ (∀ i ∈ [0, 1, 2, 3, 4, 5], i < crossing.length) ∧
      (∀ i ∈ [0, 1, 2, 3, 4, 5], (crossing.tag i).SingleRole) ∧
      crossing.Increasing [0, 1, 2, 3, 4, 5] ∧
      crossing.concerning .standard "for" [0, 1, 2, 3, 4, 5] = [1, 4] ∧
      Roster.SameButNumbers {} "for" [1, 4] (associate .standard {} crossing [0, 1, 2, 3, 4, 5]).1
        (associate .standard {} crossing [1, 4]).1 := by
  have hnodup : ([0, 1, 2, 3, 4, 5] : List TagId).Nodup := by decide
  have hlt : ∀ i ∈ [0, 1, 2, 3, 4, 5], i < crossing.length := by decide
  have hread (i : TagId) (hi : i ∈ [0, 1, 2, 3, 4, 5]) : ∃ raw : Text,
      { toTag := ({ raw := raw } : Tag).read .standard } = crossing.tag i := by
    rcases List.mem_map.1 (Roster.tag_mem (hlt i hi)) with ⟨raw, _, htag⟩
    exact ⟨raw, htag⟩
  have hrole : ∀ i ∈ [0, 1, 2, 3, 4, 5], (crossing.tag i).SingleRole := by
    intro i hi
    rcases hread i hi with ⟨raw, htag⟩
    rw [← htag]
    exact Tag.singleRole_read .standard ⟨nofun, nofun⟩
  have horder : crossing.Increasing [0, 1, 2, 3, 4, 5] := by
    refine .inl fun i hi => ?_
    rcases hread i hi with ⟨raw, htag⟩
    rw [← htag]
  have hfor : crossing.concerning .standard "for" [0, 1, 2, 3, 4, 5] = [1, 4] := by decide
  have halike := associate_concerning .standard {} 0 "for" hnodup hlt hrole horder
  rw [hfor] at halike
  exact ⟨hnodup, hlt, hrole, horder, hfor, halike⟩

end Pairing
end LiquidMarkdown
