import LiquidMarkdown.Proofs.Pairing.Accounting

/-!
# What a pairing writes into each tag

Tags are paired in document order, so every frame holds its tags in this order, and the number in
its id tells how many blocks were opened before.  With this the frames can be left out of what is
said of a pairing.  This file defines:

* `eq_of_sublist` — parts of a list without repetitions are told by what is in them;
* `Roster.openings`, `Roster.Owner` — the tags that open a block, and the one that opens that of a
  tag;
* `Roster.Trail` — continuations, perhaps with a closing tag behind them;
* `IdSource.blockId` — the id of the block that a tag opens, `IdSource.blockId_inj`;
* `Frame.Numbered` — the tags of a frame are in order, and its id is that of its opening tag;
* `State.Numbers` — so are all frames of a pairing under way, `State.Numbers.step`;
* `numbered_associate` — so are the frames that a pairing comes to;
* `Assigned` — what is written into a tag, in terms of the tags that belong together;
* `assigned_associate` — a pairing writes that into every tag that takes part;
* `Assigned.blockId_eq_iff` — tags have the same block id if they have the same owner.
-/

namespace LiquidMarkdown

/-! ## Parts of a list -/

/-- A part of a list without repetitions is told by what is in it. -/
theorem eq_filter_of_sublist {s l : List TagId} (h : s.Sublist l) (hn : l.Nodup) :
    s = l.filter (· ∈ s) := by
  induction h with
  | slnil => rfl
  | @cons s l a h ih =>
      have ha : a ∉ s := fun hc => (List.nodup_cons.1 hn).1 (h.subset hc)
      rw [List.filter_cons_of_neg (by simpa using ha)]
      exact ih (List.nodup_cons.1 hn).2
  | @cons_cons s l a h ih =>
      have hrest : l.filter (· ∈ a :: s) = l.filter (· ∈ s) := by
        apply List.filter_congr
        intro k hk
        have hka : k ≠ a := fun hc => (List.nodup_cons.1 hn).1 (hc ▸ hk)
        simp [hka]
      rw [List.filter_cons_of_pos (by simp), hrest, ← ih (List.nodup_cons.1 hn).2]

/-- Parts of a list without repetitions are equal if they have the same members. -/
theorem eq_of_sublist {s t l : List TagId} (hs : s.Sublist l) (ht : t.Sublist l) (hn : l.Nodup)
    (h : ∀ k, k ∈ s ↔ k ∈ t) : s = t := by
  rw [eq_filter_of_sublist hs hn, eq_filter_of_sublist ht hn]
  apply List.filter_congr
  intro k _
  simp [h k]

/-! ## Opening tags -/

/-- The tags among the given ones that open a block. -/
def Roster.openings (r : Roster) (ps : List TagId) : List TagId :=
  ps.filter fun i => (r.tag i).isStart

theorem Roster.openings_concat_of_isStart {r : Roster} {ps : List TagId} {x : TagId}
    (hs : (r.tag x).isStart = true) : r.openings (ps ++ [x]) = r.openings ps ++ [x] := by
  simp [openings, hs]

theorem Roster.openings_concat_of_not_isStart {r : Roster} {ps : List TagId} {x : TagId}
    (hs : (r.tag x).isStart = false) : r.openings (ps ++ [x]) = r.openings ps := by
  simp [openings, hs]

/-- The tag `i` opens the block of the tag `k`. -/
def Roster.Owner (r : Roster) (T : TagTables) (ps : List TagId) (k i : TagId) : Prop :=
  k = i ∧ (r.tag k).isStart = true ∨ r.Host T ps k i

namespace Roster.Owner

variable {r : Roster} {T : TagTables} {ps : List TagId} {k i j : TagId}

theorem mem_openings (h : r.Owner T ps k i) (hk : k ∈ ps) : i ∈ r.openings ps := by
  rcases h with ⟨rfl, hs⟩ | hhost
  · exact List.mem_filter.2 ⟨hk, hs⟩
  · exact List.mem_filter.2 ⟨hhost.mem.2, hhost.isStart⟩

theorem hasBlockRole (h : r.Owner T ps k i) : (r.tag k).hasBlockRole = true := by
  rcases h with ⟨_, hs⟩ | hhost
  · exact Tag.hasBlockRole_of_isStart hs
  · exact hhost.hasBlockRole

/-- A tag has one owner at most. -/
theorem unique (hn : ps.Nodup) (h : r.Owner T ps k i) (h' : r.Owner T ps k j) : i = j := by
  rcases h with ⟨rfl, hs⟩ | hhost
  · rcases h' with ⟨rfl, _⟩ | hhost'
    · rfl
    · rw [hhost'.isStart_eq_false] at hs
      cases hs
  · rcases h' with ⟨rfl, hs⟩ | hhost'
    · rw [hhost.isStart_eq_false] at hs
      cases hs
    · exact hhost.unique hn hhost'

end Roster.Owner

/-- The tags are continuations, perhaps with a closing tag behind them. -/
def Roster.Trail (r : Roster) (others : List TagId) : Prop :=
  ∃ (conts : List TagId) (stop : Option TagId), others = conts ++ stop.toList ∧
    (∀ j ∈ conts, (r.tag j).isContinuation = true ∧ (r.tag j).isEnd = false) ∧
    ∀ j ∈ stop, (r.tag j).isEnd = true ∧ (r.tag j).isContinuation = false

theorem Pairing.Frame.Consists.trail {r : Roster} {f : Pairing.Frame} {conts : List TagId}
    {stop : Option TagId} (h : f.Consists r conts stop) : r.Trail (conts ++ stop.toList) :=
  ⟨conts, stop, rfl, fun j hj => ⟨h.conts_isContinuation j hj, h.conts_isEnd j hj⟩,
    fun j hj => ⟨h.stop_isEnd j hj, h.stop_isContinuation j hj⟩⟩

/-- The tag opens the block of the given type, to which the given tags belong.  Where none of them
closes the block, the tag has failed. -/
def Tag.heading (X id : Text) (others : List TagId) (closed : Bool) (t : Tag) : Tag :=
  if closed then (Tag.opening id t).withRelated others
  else (Pairing.markFault (.unclosed X) (Tag.opening id t)).withRelated others

namespace Pairing

variable {T : TagTables} {ids : IdSource} {r r₀ r' : Roster} {ps is : List TagId} {x k : TagId}

/-- The id of the block that one of the given tags opens. -/
def IdSource.blockId (ids : IdSource) (r : Roster) (ps : List TagId) (i : TagId) : Text :=
  ids.idOf (r.tag i).name (ids.used + (r.openings ps).idxOf i + 1)

/-- Different opening tags get different ids. -/
theorem IdSource.blockId_inj {i j : TagId} (hi : i ∈ r.openings ps)
    (h : ids.blockId r ps i = ids.blockId r ps j) : i = j := by
  have hnumber := number_eq_of_idOf_eq h
  have hidx : (r.openings ps).idxOf i = (r.openings ps).idxOf j := by omega
  exact (List.idxOf_inj hi).1 hidx

/-! ## Frames -/

/-- The tags of the frame stand in the order of the given ones, and the id has the number that the
opening tag has among those that open a block. -/
structure Frame.Numbered (ids : IdSource) (r : Roster) (ps : List TagId) (f : Frame) : Prop where
  members : f.members.Sublist ps
  id : ∃ pre post, ps = pre ++ f.start :: post ∧
    f.id = ids.idOf f.blockType (ids.used + (r.openings pre).length + 1)

namespace Frame.Numbered

variable {f : Frame}

theorem concat (h : f.Numbered ids r ps) (x : TagId) : f.Numbered ids r (ps ++ [x]) where
  members := h.members.trans (List.sublist_append_left ps [x])
  id := by
    rcases h.id with ⟨pre, post, rfl, hid⟩
    exact ⟨pre, post ++ [x], by simp, hid⟩

/-- A tag that joins a frame stands behind all its other tags. -/
theorem extend (h : f.Numbered ids r ps) (x : TagId) : (f.extend x).Numbered ids r (ps ++ [x]) where
  members := h.members.append (List.Sublist.refl [x])
  id := (h.concat x).id

/-- The id of the frame is the one that its opening tag gets. -/
theorem id_eq (h : f.Numbered ids r ps) (hn : ps.Nodup)
    (ho : (r.brackets f.blockType).opens f.start = true) : f.id = ids.blockId r ps f.start := by
  rcases Roster.opens_iff.1 ho with ⟨hs, hname⟩
  rcases h.id with ⟨pre, post, rfl, hid⟩
  have hpre : f.start ∉ r.openings pre := by
    intro hmem
    have hdisjoint := (List.nodup_append.1 hn).2.2
    exact hdisjoint f.start (List.mem_of_mem_filter hmem) f.start List.mem_cons_self rfl
  have hopenings : r.openings (pre ++ f.start :: post) =
      r.openings pre ++ f.start :: r.openings post := by
    simp [Roster.openings, hs]
  have hidx : (r.openings (pre ++ f.start :: post)).idxOf f.start = (r.openings pre).length := by
    rw [hopenings, List.idxOf_append_of_notMem hpre, List.idxOf_cons_self, Nat.add_zero]
  rw [IdSource.blockId, hidx, hname]
  exact hid

end Frame.Numbered

/-! ## The pairing under way -/

namespace State

/-- The pairing behind the tags `ps`: every frame is numbered, and so is the next one. -/
structure Numbers (ids : IdSource) (r : Roster) (ps : List TagId) (s : State) : Prop where
  agree : s.roster.Agree r
  unique : s.opened.Unique
  ids_eq : s.ids = ids.advance (r.openings ps).length
  frames : ∀ f ∈ s.frames, f.Numbered ids r ps

namespace Numbers

variable {s s' : State}

/-- A tag that opens no block and joins no frame leaves the frames numbered. -/
theorem ignores (h : s.Numbers ids r ps) (hs : (r.tag x).isStart = false)
    (hagree : s'.roster.Agree r) (hunique : s'.opened.Unique) (hids : s'.ids = s.ids)
    (hframes : s'.frames = s.frames) : s'.Numbers ids r (ps ++ [x]) where
  agree := hagree
  unique := hunique
  ids_eq := by
    rw [hids, h.ids_eq, Roster.openings_concat_of_not_isStart hs]
  frames f hf := by
    rw [hframes] at hf
    exact (h.frames f hf).concat x

/-- One tag more leaves the frames numbered. -/
theorem step (h : s.Numbers ids r ps) (T : TagTables) (x : TagId) :
    (s.step T x).Numbers ids r (ps ++ [x]) := by
  have hagree : (s.step T x).roster.Agree r := (agree_step T s x).trans h.agree
  have hunique := unique_step h.unique T x
  have hstart : (s.roster.tag x).isStart = (r.tag x).isStart := h.agree.isStart x
  cases framesStepped_step h.unique T x with
  | opens hs hframes hids =>
      refine ⟨hagree, hunique, ?_, ?_⟩
      · rw [hids, h.ids_eq, IdSource.advance_advance,
          Roster.openings_concat_of_isStart (hstart ▸ hs), List.length_append,
          List.length_singleton]
      · intro f hf
        rcases List.mem_cons.1 (hframes.mem_iff.1 hf) with rfl | hf
        · -- The new frame gets the next number, and holds no tag but the last one.
          refine ⟨List.sublist_append_right ps [x], ps, [], rfl, ?_⟩
          change (s.ids.next (s.roster.tag x).name).1 = _
          rw [h.ids_eq]
          rfl
        · exact (h.frames f hf).concat x
  | joins hs hframes hframes' hids =>
      refine ⟨hagree, hunique, ?_, ?_⟩
      · rw [hids, h.ids_eq, Roster.openings_concat_of_not_isStart (hstart ▸ hs)]
      · intro f hf
        rcases List.mem_cons.1 (hframes'.mem_iff.1 hf) with rfl | hf
        · exact (h.frames _ (hframes.mem_iff.2 List.mem_cons_self)).extend x
        · exact (h.frames f (hframes.mem_iff.2 (List.mem_cons_of_mem _ hf))).concat x
  | stays hs hframes hids => exact h.ignores (hstart ▸ hs) hagree hunique hids hframes

/-- So does a whole list of tags, where those that take no part are left out. -/
theorem foldl (h : s.Numbers ids r ps) (T : TagTables) (is : List TagId) :
    ((is.filter fun i => (r.tag i).hasBlockRole).foldl (State.step T) s).Numbers ids r
      (ps ++ is) := by
  induction is generalizing s ps with
  | nil =>
      rw [List.append_nil]
      exact h
  | cons x is ih =>
      have hassoc : ps ++ x :: is = (ps ++ [x]) ++ is := by simp
      rw [hassoc]
      cases hrole : (r.tag x).hasBlockRole with
      | true =>
          have hfilter : (x :: is).filter (fun i => (r.tag i).hasBlockRole) =
              x :: is.filter fun i => (r.tag i).hasBlockRole := by
            simp [hrole]
          rw [hfilter, List.foldl_cons]
          exact ih (h.step T x)
      | false =>
          have hs : (r.tag x).isStart = false := (Tag.hasBlockRole_eq_false_iff.1 hrole).1
          rw [List.filter_cons_of_neg (by simp [hrole])]
          exact ih (h.ignores hs h.agree h.unique rfl rfl)

end Numbers
end State

/-- The frames that a pairing comes to are numbered. -/
theorem numbered_associate (T : TagTables) (ids : IdSource) (r : Roster) (is : List TagId) :
    ∀ f ∈ (associate T ids r is).2.1.frames, f.Numbered ids r (r.inDocumentOrder is) := by
  have hagree : (fresh r is).Agree r := .updateAll (by intro t; rfl) _ _
  have hstart : State.Numbers ids r [] { roster := fresh r is, ids := ids } := {
    agree := hagree
    unique := List.nodup_nil
    ids_eq := rfl
    frames := fun _ hf => absurd hf List.not_mem_nil }
  exact (hstart.foldl T (r.inDocumentOrder is)).frames

/-! ## Single tags -/

/-- What a pairing of the tags `ps` writes into one of them.  Here `r` holds the roles of the tags,
`r₀` the tags as they were before, and `r'` the tags as they are now. -/
inductive Assigned (T : TagTables) (ids : IdSource) (r r₀ : Roster) (ps : List TagId) (r' : Roster)
    (k : TagId) : Prop where
  /-- The tag opens a block, and is related to the tags that belong to it, in their order. -/
  | opens (others : List TagId) (hs : (r.tag k).isStart = true)
      (hhost : ∀ j, j ∈ others ↔ r.Host T ps j k) (hsub : (k :: others).Sublist ps)
      (htrail : r.Trail others)
      (htag : r'.tag k = (r₀.tag k).mapTag (Tag.heading (r.tag k).name (ids.blockId r ps k) others
        (others.any fun j => (r.tag j).isEnd)))
  /-- The tag belongs to another one, which opens its block. -/
  | joins (i : TagId) (hhost : r.Host T ps k i)
      (htag : r'.tag k = (r₀.tag k).mapTag
        fun t => (Tag.joining (ids.blockId r ps i) t).withRelated [i])
  /-- The tag opens no block and belongs to none. -/
  | orphan (hs : (r.tag k).isStart = false) (hhost : ∀ i, ¬ r.Host T ps k i)
      (htag : r'.tag k = (r₀.tag k).mapTag (markFault ((r.tag k).fault T)))

/-- What is written into the opening tag of a frame. -/
theorem Associated.tag_start {res : Result} (h : Associated T r r₀ ps r' res) {f : Frame}
    (hf : f ∈ res.frames) : r.Trail f.others ∧ r'.tag f.start = (r₀.tag f.start).mapTag
      (Tag.heading f.blockType f.id f.others (f.others.any fun j => (r.tag j).isEnd)) := by
  rcases List.mem_append.1 hf with hf | hf
  · rcases h.unclosed f hf with ⟨conts, hc, hstart, _⟩
    have hany : (f.others.any fun j => (r.tag j).isEnd) = false := by
      rw [hc.others_eq', Option.toList_none, List.append_nil, List.any_eq_false]
      intro j hj
      rw [hc.conts_isEnd j hj]
      exact Bool.false_ne_true
    rw [hstart, hany]
    exact ⟨hc.others_eq' ▸ hc.toConsists.trail, rfl⟩
  · rcases h.closed f hf with ⟨conts, j, hc, hstart, _⟩
    have hany : (f.others.any fun j => (r.tag j).isEnd) = true := by
      rw [hc.others_eq', List.any_eq_true]
      exact ⟨j, List.mem_append_right _ List.mem_cons_self, hc.stop_isEnd j rfl⟩
    rw [hstart, hany]
    exact ⟨hc.others_eq' ▸ hc.toConsists.trail, rfl⟩

/-- A pairing writes into every tag that takes part what its place among the others tells. -/
theorem assigned_associate (T : TagTables) (ids : IdSource) (hn : is.Nodup)
    (hlt : ∀ i ∈ is, i < r.length) (hr : ∀ i ∈ is, (r.tag i).SingleRole) (hk : k ∈ is)
    (hrole : (r.tag k).hasBlockRole = true) :
    Assigned T ids r (fresh r is) (r.inDocumentOrder is) (associate T ids r is).1 k := by
  have h := associated_of_singleRole (T := T) ids hn hlt hr
  have hn' : (r.inDocumentOrder is).Nodup := Roster.nodup_inDocumentOrder hn
  rcases h.mem_frame_or_orphan (Roster.mem_inDocumentOrder.2 hk) hrole with ⟨f, hf, hkf⟩ | ho
  · have hsettled := h.frame_settled hf
    have hnumbered := numbered_associate T ids r is f hf
    have hid := hnumbered.id_eq hn' hsettled.opens
    rcases Roster.opens_iff.1 hsettled.opens with ⟨hs, hname⟩
    rw [hsettled.members] at hkf
    rcases List.mem_cons.1 hkf with rfl | hkf
    · rcases h.tag_start hf with ⟨htrail, htag⟩
      rw [hid, ← hname] at htag
      exact .opens f.others hs hsettled.host (hsettled.members ▸ hnumbered.members) htrail htag
    · have htag := hsettled.other k hkf
      rw [hid] at htag
      exact .joins f.start ((hsettled.host k).1 hkf) htag
  · have horphaned := h.orphans k ho
    exact .orphan horphaned.isStart horphaned.host horphaned.written

namespace Assigned

/-- What is written into an opening tag. -/
theorem of_isStart (h : Assigned T ids r r₀ ps r' k) (hs : (r.tag k).isStart = true) :
    ∃ others, (∀ j, j ∈ others ↔ r.Host T ps j k) ∧ (k :: others).Sublist ps ∧ r.Trail others ∧
      r'.tag k = (r₀.tag k).mapTag (Tag.heading (r.tag k).name (ids.blockId r ps k) others
        (others.any fun j => (r.tag j).isEnd)) := by
  cases h with
  | opens others _ hhost hsub htrail htag => exact ⟨others, hhost, hsub, htrail, htag⟩
  | joins i hhost _ =>
      rw [hhost.isStart_eq_false] at hs
      cases hs
  | orphan hs' _ _ =>
      rw [hs'] at hs
      cases hs

/-- What is written into a tag that belongs to another one. -/
theorem of_host (h : Assigned T ids r r₀ ps r' k) (hn : ps.Nodup) {i : TagId}
    (hhost : r.Host T ps k i) : r'.tag k = (r₀.tag k).mapTag
      fun t => (Tag.joining (ids.blockId r ps i) t).withRelated [i] := by
  cases h with
  | opens _ hs _ _ _ _ =>
      rw [hhost.isStart_eq_false] at hs
      cases hs
  | joins j hhost' htag =>
      rw [hhost.unique hn hhost']
      exact htag
  | orphan _ hhost' _ => exact absurd hhost (hhost' i)

/-- What is written into a tag that neither opens a block nor belongs to one. -/
theorem of_not_host (h : Assigned T ids r r₀ ps r' k) (hs : (r.tag k).isStart = false)
    (hhost : ∀ i, ¬ r.Host T ps k i) :
    r'.tag k = (r₀.tag k).mapTag (markFault ((r.tag k).fault T)) := by
  cases h with
  | opens _ hs' _ _ _ _ =>
      rw [hs] at hs'
      cases hs'
  | joins i hhost' _ => exact absurd hhost' (hhost i)
  | orphan _ _ htag => exact htag

/-- The block id of a tag is that of the block that its owner opens. -/
theorem blockId_of_owner (h : Assigned T ids r r₀ ps r' k) (hn : ps.Nodup) {i : TagId}
    (ho : r.Owner T ps k i) : (r'.tag k).blockId = some (ids.blockId r ps i) := by
  rcases ho with ⟨rfl, hs⟩ | hhost
  · rcases h.of_isStart hs with ⟨others, _, _, _, htag⟩
    rw [htag]
    unfold Tag.heading
    split
    · rfl
    · rfl
  · rw [h.of_host hn hhost]
    rfl

/-- A tag without an owner has no block id. -/
theorem blockId_of_not_owner (h : Assigned T ids r r₀ ps r' k)
    (hfresh : (r₀.tag k).blockId = none) (ho : ∀ i, ¬ r.Owner T ps k i) :
    (r'.tag k).blockId = none := by
  have hs : (r.tag k).isStart = false := by
    apply Bool.eq_false_iff.2
    intro hs
    exact ho k (.inl ⟨rfl, hs⟩)
  rw [h.of_not_host hs fun i hhost => ho i (.inr hhost)]
  exact hfresh

/-- Tags have the same block id, or both have none, if they have the same owner, or both have none.
-/
theorem blockId_eq_iff {l : TagId} (hk : Assigned T ids r r₀ ps r' k)
    (hl : Assigned T ids r r₀ ps r' l) (hn : ps.Nodup) (hkps : k ∈ ps)
    (hfreshk : (r₀.tag k).blockId = none) (hfreshl : (r₀.tag l).blockId = none) :
    (r'.tag k).blockId = (r'.tag l).blockId ↔ ∀ i, r.Owner T ps k i ↔ r.Owner T ps l i := by
  -- A tag has the number of the block that it belongs to, and none if it belongs to none.
  by_cases hok : ∃ i, r.Owner T ps k i
  · rcases hok with ⟨i, hi⟩
    rw [hk.blockId_of_owner hn hi]
    constructor
    · intro hid
      by_cases hol : ∃ j, r.Owner T ps l j
      · rcases hol with ⟨j, hj⟩
        rw [hl.blockId_of_owner hn hj] at hid
        have hij : i = j := IdSource.blockId_inj (hi.mem_openings hkps) (Option.some.inj hid)
        subst hij
        intro m
        exact ⟨fun hm => hi.unique hn hm ▸ hj, fun hm => hj.unique hn hm ▸ hi⟩
      · rw [hl.blockId_of_not_owner hfreshl fun j hj => hol ⟨j, hj⟩] at hid
        cases hid
    · intro howner
      rw [hl.blockId_of_owner hn ((howner i).1 hi)]
  · rw [hk.blockId_of_not_owner hfreshk fun i hi => hok ⟨i, hi⟩]
    constructor
    · intro hid i
      constructor
      · intro hi
        exact absurd ⟨i, hi⟩ hok
      · intro hi
        rw [hl.blockId_of_owner hn hi] at hid
        cases hid
    · intro howner
      rw [hl.blockId_of_not_owner hfreshl fun j hj => hok ⟨j, (howner j).2 hj⟩]

end Assigned
end Pairing
end LiquidMarkdown
