import LiquidMarkdown.Proofs.Pairing.Host

/-!
# The invariant of pairing

A pairing goes through the tags in document order.  Behind some of them, the open frames of each
type are the brackets that are open, every frame holds the tags that belong to its opening tag, and
every tag that takes part is in one frame or is an orphan.  This file defines:

* `Frame.Collects` — a frame holds the tags that belong to its opening tag;
* `Frame.Written` — what is written into the tags of a frame;
* `State.Tracks` — the invariant;
* `State.Tracks.step` — one tag more keeps it;
* `State.Tracks.foldl` — so does a whole list of tags.
-/

namespace LiquidMarkdown
namespace Pairing

variable {T : TagTables} {r r₀ r' : Roster} {ps : List TagId} {x : TagId}

/-! ## Frames under way -/

namespace Frame

variable {f : Frame} {conts : List TagId} {stop : Option TagId} {g h : Tag → Tag}

/-- The frame holds the tags, among the given ones, that belong to its opening tag. -/
structure Collects (T : TagTables) (r : Roster) (ps : List TagId) (f : Frame)
    (conts : List TagId) (stop : Option TagId) : Prop extends f.Consists r conts stop where
  opens : (r.brackets f.blockType).opens f.start = true
  host : ∀ k, k ∈ conts ++ stop.toList ↔ r.Host T ps k f.start

theorem Collects.concat (hf : f.Collects T r ps conts stop) (hx : r.host? T ps x ≠ some f.start) :
    f.Collects T r (ps ++ [x]) conts stop where
  toConsists := hf.toConsists
  opens := hf.opens
  host k := by
    rw [Roster.host_concat, hf.host]
    constructor
    · exact .inl
    · rintro (hk | ⟨_, hk⟩)
      · exact hk
      · exact absurd hk hx

/-- A tag that belongs to the opening tag of a frame extends the frame. -/
theorem Collects.host_extend (hf : f.Collects T r ps conts none)
    (hx : r.host? T ps x = some f.start) (k : TagId) :
    k ∈ conts ++ [x] ↔ r.Host T (ps ++ [x]) k f.start := by
  have hk := hf.host k
  rw [Option.toList_none, List.append_nil] at hk
  rw [Roster.host_concat, List.mem_append, List.mem_singleton, hk]
  constructor
  · rintro (hk | rfl)
    · exact .inl hk
    · exact .inr ⟨rfl, hx⟩
  · rintro (hk | ⟨rfl, _⟩)
    · exact .inl hk
    · exact .inr rfl

theorem Collects.members_extend (hf : f.Collects T r ps conts none) :
    (f.extend x).members = f.start :: (conts ++ [x]) := by
  rw [extend, hf.members]
  simp

theorem Collects.continues (hf : f.Collects T r ps conts none)
    (hx : r.host? T ps x = some f.start) (hc : (r.tag x).isContinuation = true)
    (he : (r.tag x).isEnd = false) : (f.extend x).Collects T r (ps ++ [x]) (conts ++ [x]) none where
  members := by
    rw [Option.toList_none, List.append_nil]
    exact hf.members_extend
  start_isContinuation := hf.start_isContinuation
  start_isEnd := hf.start_isEnd
  conts_isContinuation k hk := by
    rcases List.mem_append.1 hk with hk | hk
    · exact hf.conts_isContinuation k hk
    · rwa [List.mem_singleton.1 hk]
  conts_isEnd k hk := by
    rcases List.mem_append.1 hk with hk | hk
    · exact hf.conts_isEnd k hk
    · rwa [List.mem_singleton.1 hk]
  stop_isContinuation _ hj := by cases hj
  stop_isEnd _ hj := by cases hj
  opens := hf.opens
  host k := by
    rw [Option.toList_none, List.append_nil]
    exact hf.host_extend hx k

theorem Collects.closes (hf : f.Collects T r ps conts none) (hx : r.host? T ps x = some f.start)
    (hc : (r.tag x).isContinuation = false) (he : (r.tag x).isEnd = true) :
    (f.extend x).Collects T r (ps ++ [x]) conts (some x) where
  members := hf.members_extend
  start_isContinuation := hf.start_isContinuation
  start_isEnd := hf.start_isEnd
  conts_isContinuation := hf.conts_isContinuation
  conts_isEnd := hf.conts_isEnd
  stop_isContinuation j hj := by
    cases hj
    exact hc
  stop_isEnd j hj := by
    cases hj
    exact he
  opens := hf.opens
  host k := hf.host_extend hx k

/-- The tags of a frame but for the opening one. -/
def others (f : Frame) : List TagId :=
  f.members.tail

theorem Collects.others_eq' (hf : f.Collects T r ps conts stop) :
    f.others = conts ++ stop.toList := by
  rw [others, hf.members, List.tail_cons]

theorem Collects.start_mem (hf : f.Collects T r ps conts stop) : f.start ∈ f.members := by
  rw [hf.members]
  exact List.mem_cons_self

/-- The opening tag of a frame was changed by `g`, its other tags by `h`. -/
def Written (f : Frame) (r₀ r : Roster) (g h : Tag → Tag) : Prop :=
  r.tag f.start = (r₀.tag f.start).mapTag g ∧ ∀ k ∈ f.others, r.tag k = (r₀.tag k).mapTag h

/-- What is done to other tags is of no account for a frame. -/
theorem Written.congr (hw : f.Written r₀ r g h) (hstart : f.start ∈ f.members)
    (heq : ∀ k ∈ f.members, r'.tag k = r.tag k) : f.Written r₀ r' g h := by
  refine ⟨(heq _ hstart).trans hw.1, ?_⟩
  intro k hk
  exact (heq k (List.mem_of_mem_tail hk)).trans (hw.2 k hk)

/-- The frame is open: each of its tags has the id of the block. -/
def Pending (T : TagTables) (r r₀ : Roster) (ps : List TagId) (r' : Roster) (f : Frame) : Prop :=
  ∃ conts, f.Collects T r ps conts none ∧ f.Written r₀ r' (Tag.opening f.id) (Tag.joining f.id)

/-- The frame is closed: its tags are related. -/
def Closed (T : TagTables) (r r₀ : Roster) (ps : List TagId) (r' : Roster) (f : Frame) : Prop :=
  ∃ conts j, f.Collects T r ps conts (some j) ∧
    f.Written r₀ r' (fun t => (Tag.opening f.id t).withRelated f.others)
      (fun t => (Tag.joining f.id t).withRelated [f.start])

/-- When a frame takes a tag in and is closed, nothing is written to any tag outside of it. -/
theorem Collects.tag_relate_joinFrame (hf : (f.extend x).Collects T r ps conts stop)
    (hagree : r'.Agree r) {k : TagId} (hkf : k ∉ f.members) (hkx : k ≠ x) :
    ((f.extend x).relate (State.joinFrame r' x f)).tag k = r'.tag k := by
  have hmembers : (f.extend x).members = f.members ++ [x] := rfl
  have hconsists := hf.toConsists.of_agree ((agree_joinFrame r' x f).trans hagree)
  rw [hconsists.tag_relate_of_notMem (by simp [hmembers, hkf, hkx])]
  exact Roster.tag_update_of_ne _ (Ne.symm hkx) _

/-- A tag that joins a frame gets its id, as all the others have it. -/
theorem Written.join (hw : f.Written r₀ r' (Tag.opening f.id) (Tag.joining f.id))
    (hf : f.Collects T r ps conts none) (hxf : x ∉ f.members) (hlt : x < r'.length)
    (htag : r'.tag x = r₀.tag x) :
    (f.extend x).Written r₀ (State.joinFrame r' x f) (Tag.opening f.id) (Tag.joining f.id) := by
  have hjoin {k : TagId} (hk : k ∈ f.members) : (State.joinFrame r' x f).tag k = r'.tag k :=
    Roster.tag_update_of_ne _ (fun hxk : x = k => hxf (hxk ▸ hk)) _
  refine ⟨(hjoin hf.start_mem).trans hw.1, ?_⟩
  intro k hk
  rw [others, hf.members_extend, List.tail_cons] at hk
  rcases List.mem_append.1 hk with hk | hk
  · have hkf : k ∈ f.others := by
      rw [hf.others_eq', Option.toList_none, List.append_nil]
      exact hk
    exact (hjoin (List.mem_of_mem_tail hkf)).trans (hw.2 k hkf)
  · rw [List.mem_singleton.1 hk, ← htag]
    exact Roster.tag_update_self hlt _

/-- A frame that was just opened holds its opening tag, and no other tag belongs to that yet. -/
theorem Pending.single (hm : f.members = [f.start])
    (ho : (r.brackets f.blockType).opens f.start = true) (hp : (r.tag f.start).SingleRole)
    (hx : f.start ∉ ps) (hw : r'.tag f.start = (r₀.tag f.start).mapTag (Tag.opening f.id)) :
    f.Pending T r r₀ (ps ++ [f.start]) r' := by
  have hs : (r.tag f.start).isStart = true := (Roster.opens_iff.1 ho).1
  rcases hp.of_isStart hs with ⟨he, hc⟩
  -- No tag before the opening tag belongs to it, and neither does it belong to itself.
  have hnone (k : TagId) : ¬ r.Host T (ps ++ [f.start]) k f.start := by
    intro hk
    rcases Roster.host_concat.1 hk with hk | ⟨_, hk⟩
    · exact hx hk.mem.2
    · rw [Roster.host?, Tag.joins?_of_isStart hs] at hk
      cases hk
  have hcollects : f.Collects T r (ps ++ [f.start]) [] none := {
    members := hm
    start_isContinuation := hc
    start_isEnd := he
    conts_isContinuation := fun _ hk => absurd hk List.not_mem_nil
    conts_isEnd := fun _ hk => absurd hk List.not_mem_nil
    stop_isContinuation := fun _ hj => by cases hj
    stop_isEnd := fun _ hj => by cases hj
    opens := ho
    host := fun k => ⟨fun hk => absurd hk List.not_mem_nil, fun hk => absurd hk (hnone k)⟩ }
  refine ⟨[], hcollects, hw, ?_⟩
  intro k hk
  rw [others, hm] at hk
  cases hk

/-- A frame stays open when a continuation joins it. -/
theorem Pending.continues (h : f.Pending T r r₀ ps r') (hxf : x ∉ f.members) (hlt : x < r'.length)
    (htag : r'.tag x = r₀.tag x) (hx : r.host? T ps x = some f.start)
    (hc : (r.tag x).isContinuation = true) (he : (r.tag x).isEnd = false) :
    (f.extend x).Pending T r r₀ (ps ++ [x]) (State.joinFrame r' x f) := by
  rcases h with ⟨conts, hf, hw⟩
  exact ⟨conts ++ [x], hf.continues hx hc he, hw.join hf hxf hlt htag⟩

/-- A closing tag joins a frame, and then the tags of the frame are related. -/
theorem Pending.closes (h : f.Pending T r r₀ ps r') (hagree : r'.Agree r)
    (hnodup : (f.extend x).members.Nodup) (hlt : ∀ k ∈ (f.extend x).members, k < r'.length)
    (htag : r'.tag x = r₀.tag x) (hx : r.host? T ps x = some f.start)
    (hc : (r.tag x).isContinuation = false) (he : (r.tag x).isEnd = true) :
    (f.extend x).Closed T r r₀ (ps ++ [x])
      ((f.extend x).relate (State.joinFrame r' x f)) := by
  rcases h with ⟨conts, hf, hw⟩
  have hmembers : (f.extend x).members = f.members ++ [x] := rfl
  have hxm : x ∈ (f.extend x).members := by simp [hmembers]
  have hxf : x ∉ f.members := by
    intro hk
    rw [hmembers, List.nodup_append] at hnodup
    exact hnodup.2.2 x hk x (List.mem_singleton_self x) rfl
  have hjoined := hw.join hf hxf (hlt x hxm) htag
  have hcloses := hf.closes hx hc he
  have hagree' : (State.joinFrame r' x f).Agree r := (agree_joinFrame _ _ _).trans hagree
  have hconsists : (f.extend x).Consists (State.joinFrame r' x f) conts (some x) :=
    hcloses.toConsists.of_agree hagree'
  have hothers : (f.extend x).others = conts ++ [x] := hcloses.others_eq'
  have hlt' {k : TagId} (hk : k ∈ (f.extend x).members) : k < (State.joinFrame r' x f).length := by
    rw [hagree'.length_eq, ← hagree.length_eq]
    exact hlt k hk
  -- The tag joins the frame first, so that relating the tags is done to what they got by joining.
  refine ⟨conts, x, hcloses, ?_, ?_⟩
  · calc
      ((f.extend x).relate (State.joinFrame r' x f)).tag (f.extend x).start
          = ((State.joinFrame r' x f).tag (f.extend x).start).mapTag
              (Tag.withRelated (conts ++ [x])) :=
            hconsists.tag_relate_start hnodup (hlt' hcloses.start_mem)
      _ = ((r₀.tag (f.extend x).start).mapTag (Tag.opening f.id)).mapTag
              (Tag.withRelated (f.extend x).others) := by rw [hjoined.1, hothers]
  · intro k hk
    have hkm : k ∈ (f.extend x).members := List.mem_of_mem_tail hk
    calc
      ((f.extend x).relate (State.joinFrame r' x f)).tag k
          = ((State.joinFrame r' x f).tag k).mapTag (Tag.withRelated [f.start]) :=
            hconsists.tag_relate_other hnodup (hothers ▸ hk) (hlt' hkm)
      _ = ((r₀.tag k).mapTag (Tag.joining f.id)).mapTag (Tag.withRelated [f.start]) := by
            rw [hjoined.2 k hk]

end Frame

/-- The tag belongs to no opening tag, and has failed for that. -/
structure Orphaned (T : TagTables) (r r₀ : Roster) (ps : List TagId) (r' : Roster) (i : TagId) :
    Prop where
  isStart : (r.tag i).isStart = false
  mem : i ∈ ps
  host : ∀ k, ¬ r.Host T ps i k
  written : r'.tag i = (r₀.tag i).mapTag (markFault ((r.tag i).fault T))

/-- A further tag that finds no opening tag belongs to none. -/
theorem Orphaned.single (hs : (r.tag x).isStart = false) (hx : x ∉ ps)
    (hhost : r.host? T ps x = none)
    (hw : r'.tag x = (r₀.tag x).mapTag (markFault ((r.tag x).fault T))) :
    Orphaned T r r₀ (ps ++ [x]) r' x where
  isStart := hs
  mem := List.mem_append_right _ (List.mem_singleton_self x)
  host k hk := by
    rcases Roster.host_concat.1 hk with hk | ⟨_, hk⟩
    · exact hx hk.mem.1
    · rw [hhost] at hk
      cases hk
  written := hw

/-! ## The invariant -/

namespace State

/-- The frames of a pairing. -/
def frames (s : State) : List Frame :=
  s.opened.all ++ s.closed

/-- The pairing behind the tags `ps`, where `r` holds the roles of the tags and `r₀` the tags as
they were before. -/
structure Tracks (T : TagTables) (r r₀ : Roster) (ps : List TagId) (s : State) : Prop where
  agree : s.roster.Agree r
  untouched : ∀ i, (i ∈ ps → (r.tag i).hasBlockRole = false) → s.roster.tag i = r₀.tag i
  unique : s.opened.Unique
  opened : ∀ X, (s.opened.ofType X).map (·.start) = (r.brackets X).opened ps
  blockType : ∀ X, ∀ f ∈ s.opened.ofType X, f.blockType = X
  members : (s.frames.flatMap (·.members) ++ s.orphans).Perm
    (ps.filter fun i => (r.tag i).hasBlockRole)
  pending : ∀ f ∈ s.opened.all, f.Pending T r r₀ ps s.roster
  closed : ∀ f ∈ s.closed, f.Closed T r r₀ ps s.roster
  orphans : ∀ i ∈ s.orphans, Orphaned T r r₀ ps s.roster i

namespace Tracks

variable {s : State}

theorem start (ids : IdSource) (h : r₀.Agree r) :
    Tracks T r r₀ [] { roster := r₀, ids := ids } where
  agree := h
  untouched _ _ := rfl
  unique := List.nodup_nil
  opened _ := rfl
  blockType _ _ hf := absurd hf List.not_mem_nil
  members := .refl _
  pending _ hf := absurd hf List.not_mem_nil
  closed _ hf := absurd hf List.not_mem_nil
  orphans _ hi := absurd hi List.not_mem_nil

/-- A further tag is as it was before. -/
theorem tag_of_notMem (h : Tracks T r r₀ ps s) (hx : x ∉ ps) : s.roster.tag x = r₀.tag x :=
  h.untouched x fun hc => absurd hc hx

theorem ne_of_hasBlockRole {i : TagId} (hx : (r.tag x).hasBlockRole = true)
    (hi : i ∈ ps ++ [x] → (r.tag i).hasBlockRole = false) : i ≠ x := by
  rintro rfl
  rw [hi (List.mem_append_right _ (List.mem_singleton_self i))] at hx
  cases hx

theorem mem_filter_of_mem_members (h : Tracks T r r₀ ps s) {f : Frame} (hf : f ∈ s.frames)
    {k : TagId} (hk : k ∈ f.members) : k ∈ ps.filter fun i => (r.tag i).hasBlockRole :=
  h.members.mem_iff.1 (List.mem_append_left _ (List.mem_flatMap.2 ⟨f, hf, hk⟩))

theorem mem_of_mem_members (h : Tracks T r r₀ ps s) {f : Frame} (hf : f ∈ s.frames) {k : TagId}
    (hk : k ∈ f.members) : k ∈ ps :=
  (List.mem_filter.1 (h.mem_filter_of_mem_members hf hk)).1

theorem ne_of_mem_members (h : Tracks T r r₀ ps s) (hx : x ∉ ps) {f : Frame} (hf : f ∈ s.frames)
    {k : TagId} (hk : k ∈ f.members) : k ≠ x := by
  rintro rfl
  exact hx (h.mem_of_mem_members hf hk)

theorem ne_of_mem_orphans (h : Tracks T r r₀ ps s) (hx : x ∉ ps) {i : TagId} (hi : i ∈ s.orphans) :
    i ≠ x := by
  rintro rfl
  exact hx (h.orphans i hi).mem

/-- Where a step writes to the tag that it takes in, and else to tags that took part before, the
tags that take no part stay untouched. -/
theorem untouched_concat (h : Tracks T r r₀ ps s) (hx : (r.tag x).hasBlockRole = true)
    (heq : ∀ i, i ≠ x → (i ∈ ps → (r.tag i).hasBlockRole = false) → r'.tag i = s.roster.tag i)
    (i : TagId) (hi : i ∈ ps ++ [x] → (r.tag i).hasBlockRole = false) : r'.tag i = r₀.tag i := by
  have hps : i ∈ ps → (r.tag i).hasBlockRole = false := fun hm => hi (List.mem_append_left _ hm)
  exact (heq i (ne_of_hasBlockRole hx hi) hps).trans (h.untouched i hps)

theorem nodup_members (h : Tracks T r r₀ ps s) (hn : ps.Nodup) :
    (s.frames.flatMap (·.members) ++ s.orphans).Nodup :=
  h.members.nodup_iff.2 (hn.filter _)

/-- The members of different frames are different. -/
theorem disjoint (h : Tracks T r r₀ ps s) (hn : ps.Nodup) {f : Frame} {rest : List Frame}
    (hp : s.frames.Perm (f :: rest)) {f' : Frame} (hf' : f' ∈ rest) {k : TagId}
    (hk : k ∈ f.members) : k ∉ f'.members := by
  -- No tag is listed twice, neither in one frame nor in two.
  have hnodup := (List.nodup_append.1 (h.nodup_members hn)).1
  rw [(hp.flatMap_right _).nodup_iff, List.flatMap_cons, List.nodup_append] at hnodup
  exact fun hk' => hnodup.2.2 k hk k (List.mem_flatMap.2 ⟨f', hf', hk'⟩) rfl

theorem start_mem_of_mem_frames (h : Tracks T r r₀ ps s) {f : Frame} (hf : f ∈ s.frames) :
    f.start ∈ f.members := by
  rcases List.mem_append.1 hf with hf | hf
  · rcases h.pending f hf with ⟨_, hc, _⟩
    exact hc.start_mem
  · rcases h.closed f hf with ⟨_, _, hc, _⟩
    exact hc.start_mem

/-- The tag that a further tag belongs to opens the innermost frame of its type. -/
theorem host?_eq (h : Tracks T r r₀ ps s) (k : TagId) :
    r.host? T ps k = ((r.tag k).joins? T).bind fun X =>
      ((s.opened.ofType X).map (·.start)).head? := by
  rw [Roster.host?]
  congr 1
  funext X
  rw [h.opened X]

/-- A change to further tags and to the tags of one frame leaves the other frames as they are. -/
theorem pending_of_ne (h : Tracks T r r₀ ps s) {f : Frame} (hf : f ∈ s.opened.all)
    (hx : r.host? T ps x ≠ some f.start) (heq : ∀ k ∈ f.members, r'.tag k = s.roster.tag k) :
    f.Pending T r r₀ (ps ++ [x]) r' := by
  rcases h.pending f hf with ⟨conts, hc, hw⟩
  exact ⟨conts, hc.concat hx, hw.congr hc.start_mem heq⟩

theorem closed_of_ne (h : Tracks T r r₀ ps s) {f : Frame} (hf : f ∈ s.closed)
    (hx : r.host? T ps x ≠ some f.start) (heq : ∀ k ∈ f.members, r'.tag k = s.roster.tag k) :
    f.Closed T r r₀ (ps ++ [x]) r' := by
  rcases h.closed f hf with ⟨conts, j, hc, hw⟩
  exact ⟨conts, j, hc.concat hx, hw.congr hc.start_mem heq⟩

theorem orphaned_of_ne (h : Tracks T r r₀ ps s) (hx : x ∉ ps) {i : TagId} (hi : i ∈ s.orphans)
    (heq : r'.tag i = s.roster.tag i) : Orphaned T r r₀ (ps ++ [x]) r' i where
  isStart := (h.orphans i hi).isStart
  mem := List.mem_append_left _ (h.orphans i hi).mem
  host k hk := by
    rcases Roster.host_concat.1 hk with hk | ⟨rfl, _⟩
    · exact (h.orphans i hi).host k hk
    · exact hx (h.orphans _ hi).mem
  written := heq.trans (h.orphans i hi).written

/-- The frames that take the place of those of one type stand under their type. -/
theorem blockType_set (h : Tracks T r r₀ ps s) {X : Text} {fs : List Frame}
    (hfs : ∀ f ∈ fs, f.blockType = X) (Y : Text) :
    ∀ f ∈ (s.opened.set X fs).ofType Y, f.blockType = Y := by
  intro f hf
  by_cases hY : Y = X
  · subst hY
    rw [OpenFrames.ofType_set_self] at hf
    exact hfs f hf
  · rw [OpenFrames.ofType_set_of_ne _ _ hY] at hf
    exact h.blockType Y f hf

/-- A tag that is a bracket of one type only changes the open frames of this type only. -/
theorem opened_set (h : Tracks T r r₀ ps s) {X : Text} {fs : List Frame}
    (hfs : fs.map (·.start) = (r.brackets X).next ((r.brackets X).opened ps) x)
    (hne : ∀ Y, Y ≠ X → (r.brackets Y).opens x = false ∧ (r.brackets Y).closes x = false)
    (Y : Text) :
    ((s.opened.set X fs).ofType Y).map (·.start) = (r.brackets Y).opened (ps ++ [x]) := by
  rw [Brackets.opened_concat]
  by_cases hY : Y = X
  · subst hY
    rw [OpenFrames.ofType_set_self]
    exact hfs
  · rcases hne Y hY with ⟨ho, hc⟩
    rw [OpenFrames.ofType_set_of_ne _ _ hY, h.opened Y, Brackets.next_of_neither ho hc]

theorem filter_concat_of_hasBlockRole (hx : (r.tag x).hasBlockRole = true) :
    (ps ++ [x]).filter (fun i => (r.tag i).hasBlockRole) =
      ps.filter (fun i => (r.tag i).hasBlockRole) ++ [x] := by
  simp [List.filter_append, hx]

/-! ### One tag more -/

/-- An opening tag starts a frame of its own. -/
theorem opens (h : Tracks T r r₀ ps s) (hx : x ∉ ps) (hlt : x < r.length)
    (hp : (r.tag x).SingleRole) (hs : (r.tag x).isStart = true) :
    Tracks T r r₀ (ps ++ [x]) (s.openFrame x (s.roster.tag x).name) := by
  have hblock : (r.tag x).hasBlockRole = true := Tag.hasBlockRole_of_isStart hs
  have hname : (r.tag x).name = (s.roster.tag x).name := (h.agree.name x).symm
  -- From here on the name stands for the type of the new frame.
  generalize (s.roster.tag x).name = name at hname
  let f : Frame := ⟨name, x, (s.ids.next name).1, [x]⟩
  have hroster {k : TagId} (hk : k ≠ x) :
      (s.openFrame x name).roster.tag k = s.roster.tag k :=
    Roster.tag_update_of_ne _ (Ne.symm hk) _
  have hhost : r.host? T ps x = none := by
    rw [Roster.host?, Tag.joins?_of_isStart hs]
    rfl
  have hne (f' : Frame) : r.host? T ps x ≠ some f'.start := by
    rw [hhost]
    exact (Option.some_ne_none _).symm
  have heq {f' : Frame} (hf' : f' ∈ s.frames) (k : TagId) (hk : k ∈ f'.members) :
      (s.openFrame x name).roster.tag k = s.roster.tag k :=
    hroster (h.ne_of_mem_members hx hf' hk)
  have hall : (s.openFrame x name).opened.all.Perm (f :: s.opened.all) :=
    (OpenFrames.all_set_perm h.unique name _).trans
      ((OpenFrames.all_perm h.unique name).symm.cons f)
  have hframes : (s.openFrame x name).frames.Perm (f :: s.frames) := hall.append_right _
  refine {
    agree := ?agree
    untouched := ?untouched
    unique := OpenFrames.unique_set h.unique _ _
    opened := ?opened
    blockType := ?blockType
    members := ?members
    pending := ?pending
    closed := ?closed
    orphans := ?orphans }
  case agree =>
    exact (Roster.Agree.update (by intro t; rfl) _ _).trans h.agree
  case untouched =>
    exact h.untouched_concat hblock fun _ hix _ => hroster hix
  case opened =>
    intro X
    refine h.opened_set ?_ (fun Y hY => ⟨?_, Roster.closes_eq_false (.inl hs)⟩) X
    · rw [Brackets.next_of_opens (Roster.opens_iff.2 ⟨hs, hname⟩), ← h.opened name]
      rfl
    · exact Bool.eq_false_iff.2 fun ho => hY ((Roster.opens_iff.1 ho).2.symm.trans hname)
  case blockType =>
    intro X f' hf'
    refine h.blockType_set ?_ X f' hf'
    intro k hk
    rcases List.mem_cons.1 hk with rfl | hk
    · rfl
    · exact h.blockType name k hk
  case members =>
    rw [filter_concat_of_hasBlockRole hblock]
    calc
      ((s.openFrame x name).frames.flatMap (·.members) ++ s.orphans).Perm
          ((f :: s.frames).flatMap (·.members) ++ s.orphans) :=
        (hframes.flatMap_right _).append_right _
      _ = x :: (s.frames.flatMap (·.members) ++ s.orphans) := rfl
      List.Perm _ (x :: ps.filter fun i => (r.tag i).hasBlockRole) := h.members.cons x
      List.Perm _ (ps.filter (fun i => (r.tag i).hasBlockRole) ++ [x]) :=
        (List.perm_append_singleton x _).symm
  case pending =>
    intro f' hf'
    rcases List.mem_cons.1 (hall.mem_iff.1 hf') with rfl | hf'
    · have hopens : (r.brackets name).opens x = true := Roster.opens_iff.2 ⟨hs, hname⟩
      have hopening : (s.openFrame x name).roster.tag f.start =
          (r₀.tag f.start).mapTag (Tag.opening f.id) := by
        rw [← h.tag_of_notMem hx]
        exact Roster.tag_update_self (h.agree.length_eq ▸ hlt) _
      exact Frame.Pending.single (f := f) rfl hopens hp hx hopening
    · exact h.pending_of_ne hf' (hne f') (heq (List.mem_append_left _ hf'))
  case closed =>
    intro f' hf'
    exact h.closed_of_ne hf' (hne f') (heq (List.mem_append_right _ hf'))
  case orphans =>
    intro i hi
    exact h.orphaned_of_ne hx hi (hroster (h.ne_of_mem_orphans hx hi))

/-- A frame with one member more, among the same others, has one member more. -/
theorem members_perm_extend {frames frames' rest : List Frame} {orphans is : List TagId} {f : Frame}
    (hp : frames.Perm (f :: rest)) (hp' : frames'.Perm (f.extend x :: rest))
    (hm : (frames.flatMap (·.members) ++ orphans).Perm is) :
    (frames'.flatMap (·.members) ++ orphans).Perm (is ++ [x]) := by
  have hflat : (frames.flatMap (·.members)).Perm (f.members ++ rest.flatMap (·.members)) :=
    hp.flatMap_right _
  have hflat' : (frames'.flatMap (·.members)).Perm
      ((f.members ++ [x]) ++ rest.flatMap (·.members)) :=
    hp'.flatMap_right _
  have hmove : ((f.members ++ [x]) ++ rest.flatMap (·.members)).Perm
      (x :: (f.members ++ rest.flatMap (·.members))) := by
    rw [List.append_assoc, List.singleton_append]
    exact List.perm_middle
  calc
    (frames'.flatMap (·.members) ++ orphans).Perm
        (x :: (f.members ++ rest.flatMap (·.members)) ++ orphans) :=
      (hflat'.trans hmove).append_right _
    List.Perm _ (x :: (frames.flatMap (·.members)) ++ orphans) :=
      (hflat.symm.cons x).append_right _
    List.Perm _ (x :: is) := hm.cons x
    List.Perm _ (is ++ [x]) := (List.perm_append_singleton x is).symm

/-- What is known where a tag belongs to the innermost frame of a type: the frame is apart from all
others, and the tag belongs to no other one. -/
theorem innermost (h : Tracks T r r₀ ps s) (hn : ps.Nodup) {X : Text} {f : Frame} {fs : List Frame}
    (hX : (r.tag x).joins? T = some X) (hf : s.opened.ofType X = f :: fs) :
    r.host? T ps x = some f.start ∧
      s.opened.all.Perm (f :: (fs ++ s.opened.others X)) ∧
      ∀ f' ∈ fs ++ s.opened.others X ++ s.closed, f' ∈ s.frames ∧
        r.host? T ps x ≠ some f'.start ∧ ∀ k ∈ f'.members, k ∉ f.members := by
  have hall : s.opened.all.Perm (f :: (fs ++ s.opened.others X)) := by
    have hp := OpenFrames.all_perm h.unique X
    rwa [hf, List.cons_append] at hp
  have hframes : s.frames.Perm (f :: (fs ++ s.opened.others X ++ s.closed)) :=
    hall.append_right s.closed
  have hhost : r.host? T ps x = some f.start := by
    rw [h.host?_eq, hX, Option.bind_some, hf]
    rfl
  have hmem : f ∈ s.frames := hframes.mem_iff.2 List.mem_cons_self
  refine ⟨hhost, hall, ?_⟩
  intro f' hf'
  have hmem' : f' ∈ s.frames := hframes.mem_iff.2 (List.mem_cons_of_mem _ hf')
  -- The frame was opened by another tag than any other frame.
  have hapart {k : TagId} (hk : k ∈ f.members) : k ∉ f'.members := h.disjoint hn hframes hf' hk
  refine ⟨hmem', ?_, fun k hk hk' => hapart hk' hk⟩
  intro hc
  rw [hhost, Option.some.injEq] at hc
  exact hapart (h.start_mem_of_mem_frames hmem) (hc ▸ h.start_mem_of_mem_frames hmem')

/-- A continuation joins the innermost frame of its type. -/
theorem continues (h : Tracks T r r₀ ps s) (hn : ps.Nodup) (hx : x ∉ ps) (hlt : x < r.length)
    (hs : (r.tag x).isStart = false) (he : (r.tag x).isEnd = false)
    (hc : (r.tag x).isContinuation = true) {X : Text} {f : Frame} {fs : List Frame}
    (hX : (r.tag x).joins? T = some X) (hf : s.opened.ofType X = f :: fs) :
    Tracks T r r₀ (ps ++ [x])
      { s with
        roster := joinFrame s.roster x f
        opened := s.opened.set X (f.extend x :: fs) } := by
  rcases h.innermost hn hX hf with ⟨hhost, hall, hrest⟩
  have hblock : (r.tag x).hasBlockRole = true := Tag.hasBlockRole_of_isContinuation hc
  have hroster {k : TagId} (hk : k ≠ x) : (joinFrame s.roster x f).tag k = s.roster.tag k :=
    Roster.tag_update_of_ne _ (Ne.symm hk) _
  have hall' : (s.opened.set X (f.extend x :: fs)).all.Perm
      (f.extend x :: (fs ++ s.opened.others X)) :=
    OpenFrames.all_set_perm h.unique X _
  have heq {f' : Frame} (hf' : f' ∈ s.frames) (k : TagId) (hk : k ∈ f'.members) :
      (joinFrame s.roster x f).tag k = s.roster.tag k :=
    hroster (h.ne_of_mem_members hx hf' hk)
  have hfopen : f ∈ s.opened.all := hall.mem_iff.2 List.mem_cons_self
  -- A continuation is no bracket, of whatever type.
  have hneither (Y : Text) : (r.brackets Y).opens x = false ∧ (r.brackets Y).closes x = false :=
    ⟨Roster.opens_eq_false hs, Roster.closes_eq_false (.inr he)⟩
  refine {
    agree := ?agree
    untouched := ?untouched
    unique := OpenFrames.unique_set h.unique _ _
    opened := ?opened
    blockType := ?blockType
    members := ?members
    pending := ?pending
    closed := ?closed
    orphans := ?orphans }
  case agree =>
    exact (agree_joinFrame _ _ _).trans h.agree
  case untouched =>
    exact h.untouched_concat hblock fun _ hix _ => hroster hix
  case opened =>
    intro Y
    refine h.opened_set ?_ (fun Z _ => hneither Z) Y
    rw [Brackets.next_of_neither (hneither X).1 (hneither X).2, ← h.opened X, hf]
    rfl
  case blockType =>
    intro Y f' hf'
    refine h.blockType_set ?_ Y f' hf'
    intro k hk
    rcases List.mem_cons.1 hk with rfl | hk
    · exact h.blockType X f (hf ▸ List.mem_cons_self)
    · exact h.blockType X k (hf ▸ List.mem_cons_of_mem _ hk)
  case members =>
    rw [filter_concat_of_hasBlockRole hblock]
    exact members_perm_extend (hall.append_right s.closed) (hall'.append_right s.closed) h.members
  case pending =>
    intro f' hf'
    rcases List.mem_cons.1 (hall'.mem_iff.1 hf') with rfl | hf'
    · have hxf : x ∉ f.members := fun hk =>
        hx (h.mem_of_mem_members (List.mem_append_left _ hfopen) hk)
      have hltx : x < s.roster.length := h.agree.length_eq ▸ hlt
      exact (h.pending f hfopen).continues hxf hltx (h.tag_of_notMem hx) hhost hc he
    · rcases hrest f' (List.mem_append_left _ hf') with ⟨hmem, hne, _⟩
      have hopen : f' ∈ s.opened.all := hall.mem_iff.2 (List.mem_cons_of_mem _ hf')
      exact h.pending_of_ne hopen hne (heq hmem)
  case closed =>
    intro f' hf'
    rcases hrest f' (List.mem_append_right _ hf') with ⟨hmem, hne, _⟩
    exact h.closed_of_ne hf' hne (heq hmem)
  case orphans =>
    intro i hi
    exact h.orphaned_of_ne hx hi (hroster (h.ne_of_mem_orphans hx hi))

/-- The members of a frame are different tags, and so they are with a further tag. -/
theorem nodup_members_extend (h : Tracks T r r₀ ps s) (hn : ps.Nodup) (hx : x ∉ ps) {f : Frame}
    (hf : f ∈ s.frames) : (f.extend x).members.Nodup := by
  have hmembers : (f.extend x).members = f.members ++ [x] := rfl
  have hflat := (List.nodup_append.1 (h.nodup_members hn)).1
  have hnodup : f.members.Nodup := (List.nodup_flatMap.1 hflat).1 f hf
  rw [hmembers, List.nodup_append]
  refine ⟨hnodup, List.nodup_singleton x, ?_⟩
  intro a ha c hc hac
  rw [List.mem_singleton.1 hc] at hac
  exact h.ne_of_mem_members hx hf ha hac

/-- A closing tag closes the innermost frame of its type and relates its tags. -/
theorem closes (h : Tracks T r r₀ ps s) (hn : ps.Nodup) (hx : x ∉ ps)
    (hlt : ∀ i ∈ ps ++ [x], i < r.length) (hs : (r.tag x).isStart = false)
    (he : (r.tag x).isEnd = true) (hc : (r.tag x).isContinuation = false) {X : Text} {f : Frame}
    {fs : List Frame} (hX : (r.tag x).joins? T = some X) (hf : s.opened.ofType X = f :: fs) :
    Tracks T r r₀ (ps ++ [x])
      { s with
        roster := (f.extend x).relate (joinFrame s.roster x f)
        opened := s.opened.set X fs
        closed := s.closed ++ [f.extend x] } := by
  rcases h.innermost hn hX hf with ⟨hhost, hall, hrest⟩
  have hblock : (r.tag x).hasBlockRole = true := Tag.hasBlockRole_of_isEnd he
  have hfopen : f ∈ s.opened.all := hall.mem_iff.2 List.mem_cons_self
  have hfmem : f ∈ s.frames := List.mem_append_left _ hfopen
  have hmembers : (f.extend x).members = f.members ++ [x] := rfl
  have hclosed : (f.extend x).Closed T r r₀ (ps ++ [x])
      ((f.extend x).relate (joinFrame s.roster x f)) := by
    refine (h.pending f hfopen).closes h.agree (h.nodup_members_extend hn hx hfmem) ?_
      (h.tag_of_notMem hx) hhost hc he
    intro k hk
    rw [h.agree.length_eq]
    rw [hmembers] at hk
    rcases List.mem_append.1 hk with hk | hk
    · exact hlt k (List.mem_append_left _ (h.mem_of_mem_members hfmem hk))
    · exact hlt k (List.mem_append_right _ hk)
  -- Only the tags of the frame are written to.
  have hroster {k : TagId} (hkf : k ∉ f.members) (hkx : k ≠ x) :
      ((f.extend x).relate (joinFrame s.roster x f)).tag k = s.roster.tag k := by
    rcases hclosed with ⟨_, _, hcollects, _⟩
    exact hcollects.tag_relate_joinFrame h.agree hkf hkx
  have heq {f' : Frame} (hf' : f' ∈ s.frames) (hapart : ∀ k ∈ f'.members, k ∉ f.members)
      (k : TagId) (hk : k ∈ f'.members) :
      ((f.extend x).relate (joinFrame s.roster x f)).tag k = s.roster.tag k :=
    hroster (hapart k hk) (h.ne_of_mem_members hx hf' hk)
  have hall' : (s.opened.set X fs).all.Perm (fs ++ s.opened.others X) :=
    OpenFrames.all_set_perm h.unique X _
  have hframes' : ((s.opened.set X fs).all ++ (s.closed ++ [f.extend x])).Perm
      (f.extend x :: (fs ++ s.opened.others X ++ s.closed)) := by
    rw [← List.append_assoc]
    exact ((hall'.append_right s.closed).append_right _).trans (List.perm_append_singleton _ _)
  have htype : Tag.blockOfEnd (r.tag x).name = X := by
    rw [Tag.joins?_of_isEnd hs he, Option.some.injEq] at hX
    exact hX
  refine {
    agree := ?agree
    untouched := ?untouched
    unique := OpenFrames.unique_set h.unique _ _
    opened := ?opened
    blockType := ?blockType
    members := ?members
    pending := ?pending
    closed := ?closed
    orphans := ?orphans }
  case agree =>
    exact (agree_relate _ _).trans ((agree_joinFrame _ _ _).trans h.agree)
  case untouched =>
    refine h.untouched_concat hblock fun i hix hi => hroster ?_ hix
    -- The tags of the frame take part.
    intro hk
    have hmem := List.mem_filter.1 (h.mem_filter_of_mem_members hfmem hk)
    have hno := hi hmem.1
    simp [hno] at hmem
  case opened =>
    intro Y
    refine h.opened_set ?_ (fun Z hZ => ⟨Roster.opens_eq_false hs, ?_⟩) Y
    · rw [Brackets.next_of_closes (Roster.closes_iff.2 ⟨hs, he, htype⟩), ← h.opened X, hf]
      rfl
    · exact Bool.eq_false_iff.2 fun hcl => hZ ((Roster.closes_iff.1 hcl).2.2.symm.trans htype)
  case blockType =>
    intro Y f' hf'
    exact h.blockType_set (fun k hk => h.blockType X k (hf ▸ List.mem_cons_of_mem _ hk)) Y f' hf'
  case members =>
    rw [filter_concat_of_hasBlockRole hblock]
    exact members_perm_extend (hall.append_right s.closed) hframes' h.members
  case pending =>
    intro f' hf'
    have hf'rest := hall'.mem_iff.1 hf'
    rcases hrest f' (List.mem_append_left _ hf'rest) with ⟨hmem, hne, hapart⟩
    have hopen : f' ∈ s.opened.all := hall.mem_iff.2 (List.mem_cons_of_mem _ hf'rest)
    exact h.pending_of_ne hopen hne (heq hmem hapart)
  case closed =>
    intro f' hf'
    rcases List.mem_append.1 hf' with hf' | hf'
    · rcases hrest f' (List.mem_append_right _ hf') with ⟨hmem, hne, hapart⟩
      exact h.closed_of_ne hf' hne (heq hmem hapart)
    · rw [List.mem_singleton.1 hf']
      exact hclosed
  case orphans =>
    intro i hi
    have hif : i ∉ f.members := by
      have hdisjoint := (List.nodup_append.1 (h.nodup_members hn)).2.2
      intro hk
      exact hdisjoint i (List.mem_flatMap.2 ⟨f, hfmem, hk⟩) i hi rfl
    exact h.orphaned_of_ne hx hi (hroster hif (h.ne_of_mem_orphans hx hi))

/-- A tag without a frame to close or to continue is an orphan. -/
theorem orphan (h : Tracks T r r₀ ps s) (hx : x ∉ ps) (hlt : x < r.length)
    (hs : (r.tag x).isStart = false)
    (hrole : (r.tag x).isEnd = true ∨ (r.tag x).isContinuation = true)
    (hX : ∀ X, (r.tag x).joins? T = some X → s.opened.ofType X = []) :
    Tracks T r r₀ (ps ++ [x]) (s.orphan x ((r.tag x).fault T)) := by
  have hblock : (r.tag x).hasBlockRole = true := by
    rcases hrole with he | hc
    · exact Tag.hasBlockRole_of_isEnd he
    · exact Tag.hasBlockRole_of_isContinuation hc
  have hroster {k : TagId} (hk : k ≠ x) :
      (s.orphan x ((r.tag x).fault T)).roster.tag k = s.roster.tag k :=
    Roster.tag_update_of_ne _ (Ne.symm hk) _
  have hhost : r.host? T ps x = none := by
    rw [h.host?_eq]
    apply Option.bind_eq_none_iff.2
    intro X hjoins
    rw [hX X hjoins]
    rfl
  have hne (f : Frame) : r.host? T ps x ≠ some f.start := by
    rw [hhost]
    exact (Option.some_ne_none _).symm
  have heq {f : Frame} (hf : f ∈ s.frames) (k : TagId) (hk : k ∈ f.members) :
      (s.orphan x ((r.tag x).fault T)).roster.tag k = s.roster.tag k :=
    hroster (h.ne_of_mem_members hx hf hk)
  refine {
    agree := ?agree
    untouched := ?untouched
    unique := h.unique
    opened := ?opened
    blockType := h.blockType
    members := ?members
    pending := ?pending
    closed := ?closed
    orphans := ?orphans }
  case agree =>
    exact (agree_markFault _ _ _).trans h.agree
  case untouched =>
    exact h.untouched_concat hblock fun _ hix _ => hroster hix
  case opened =>
    intro X
    rw [Brackets.opened_concat]
    cases hcl : (r.brackets X).closes x with
    | false =>
        rw [Brackets.next_of_neither (Roster.opens_eq_false hs) hcl]
        exact h.opened X
    | true =>
        -- Nothing of its type is open.
        rcases Roster.closes_iff.1 hcl with ⟨_, he, hXe⟩
        have hnil : s.opened.ofType X = [] := hX X (by rw [Tag.joins?_of_isEnd hs he, hXe])
        have hopened := h.opened X
        rw [hnil] at hopened
        rw [Brackets.next_of_closes hcl, ← hopened]
        exact congrArg (List.map (·.start)) hnil
  case members =>
    rw [filter_concat_of_hasBlockRole hblock]
    have hm := h.members.append_right [x]
    rwa [List.append_assoc] at hm
  case pending =>
    intro f hf
    exact h.pending_of_ne hf (hne f) (heq (List.mem_append_left _ hf))
  case closed =>
    intro f hf
    exact h.closed_of_ne hf (hne f) (heq (List.mem_append_right _ hf))
  case orphans =>
    intro i hi
    rcases List.mem_append.1 hi with hi | hi
    · exact h.orphaned_of_ne hx hi (hroster (h.ne_of_mem_orphans hx hi))
    · rw [List.mem_singleton.1 hi]
      refine Orphaned.single hs hx hhost ?_
      rw [← h.tag_of_notMem hx]
      exact Roster.tag_update_self (h.agree.length_eq ▸ hlt) _

/-- A tag that takes no part changes nothing. -/
theorem ignores (h : Tracks T r r₀ ps s) (hx : x ∉ ps) (hrole : (r.tag x).hasBlockRole = false) :
    Tracks T r r₀ (ps ++ [x]) s := by
  rcases Tag.hasBlockRole_eq_false_iff.1 hrole with ⟨hs, he, hc⟩
  -- A tag without a role looks for no opening tag.
  have hne (f : Frame) : r.host? T ps x ≠ some f.start := by
    have hjoins : (r.tag x).joins? T = none := by simp [Tag.joins?, hs, he, hc]
    rw [Roster.host?, hjoins]
    exact (Option.some_ne_none _).symm
  refine {
    agree := h.agree
    untouched := ?untouched
    unique := h.unique
    opened := ?opened
    blockType := h.blockType
    members := ?members
    pending := ?pending
    closed := ?closed
    orphans := ?orphans }
  case untouched =>
    intro i hi
    exact h.untouched i fun hm => hi (List.mem_append_left _ hm)
  case opened =>
    intro X
    rw [Brackets.opened_concat, Brackets.next_of_neither (Roster.opens_eq_false hs)
      (Roster.closes_eq_false (.inr he))]
    exact h.opened X
  case members =>
    have hfilter : (ps ++ [x]).filter (fun i => (r.tag i).hasBlockRole) =
        ps.filter fun i => (r.tag i).hasBlockRole := by
      simp [List.filter_append, hrole]
    rw [hfilter]
    exact h.members
  case pending =>
    intro f hf
    exact h.pending_of_ne hf (hne f) fun _ _ => rfl
  case closed =>
    intro f hf
    exact h.closed_of_ne hf (hne f) fun _ _ => rfl
  case orphans =>
    intro i hi
    exact h.orphaned_of_ne hx hi rfl

/-- One tag more keeps the invariant. -/
theorem step (h : Tracks T r r₀ ps s) (hn : (ps ++ [x]).Nodup)
    (hlt : ∀ i ∈ ps ++ [x], i < r.length) (hp : (r.tag x).SingleRole) :
    Tracks T r r₀ (ps ++ [x]) (s.step T x) := by
  have hnps : ps.Nodup := (List.nodup_append.1 hn).1
  have hx : x ∉ ps := fun hc => (List.nodup_append.1 hn).2.2 x hc x (by simp) rfl
  have hltx : x < r.length := hlt x (by simp)
  have hstart := h.agree.isStart x
  have hend := h.agree.isEnd x
  have hcont := h.agree.isContinuation x
  have hjoins := h.agree.joins? T x
  have hstep := stepped_step T s x
  generalize s.step T x = s' at hstep
  cases hstep with
  | opens hs => exact h.opens hx hltx hp (hstart ▸ hs)
  | @closes X f fs hs he hX hf =>
      have he' : (r.tag x).isEnd = true := hend ▸ he
      exact h.closes hnps hx hlt (hstart ▸ hs) he' (hp.of_isEnd he').2 (hjoins ▸ hX) hf
  | @continues X f fs hs he hc hX hf =>
      exact h.continues hnps hx hltx (hstart ▸ hs) (hend ▸ he) (hcont ▸ hc) (hjoins ▸ hX) hf
  | orphan hs hrole hX =>
      rw [h.agree.fault T x]
      rw [hend, hcont] at hrole
      rw [hjoins] at hX
      exact h.orphan hx hltx (hstart ▸ hs) hrole hX
  | ignores hrole => exact h.ignores hx (h.agree.hasBlockRole x ▸ hrole)

/-- So does a whole list of tags, where those that take no part are left out. -/
theorem foldl {is : List TagId} (h : Tracks T r r₀ ps s) (hn : (ps ++ is).Nodup)
    (hlt : ∀ i ∈ ps ++ is, i < r.length) (hp : ∀ i ∈ is, (r.tag i).SingleRole) :
    Tracks T r r₀ (ps ++ is)
      ((is.filter fun i => (r.tag i).hasBlockRole).foldl (State.step T) s) := by
  induction is generalizing ps s with
  | nil => rwa [List.append_nil]
  | cons x is ih =>
      have hassoc : ps ++ x :: is = (ps ++ [x]) ++ is := by simp
      rw [hassoc] at hn hlt ⊢
      have hnx : (ps ++ [x]).Nodup := (List.nodup_append.1 hn).1
      have hltx (i : TagId) (hi : i ∈ ps ++ [x]) : i < r.length :=
        hlt i (List.mem_append_left _ hi)
      have hpis (i : TagId) (hi : i ∈ is) : (r.tag i).SingleRole := hp i (List.mem_cons_of_mem _ hi)
      -- A tag without a role is left out of the list, and changes nothing.
      cases hrole : (r.tag x).hasBlockRole with
      | true =>
          have hfilter : (x :: is).filter (fun i => (r.tag i).hasBlockRole) =
              x :: is.filter fun i => (r.tag i).hasBlockRole := by
            simp [hrole]
          rw [hfilter, List.foldl_cons]
          exact ih (h.step hnx hltx (hp x List.mem_cons_self)) hn hlt hpis
      | false =>
          have hx : x ∉ ps := fun hc => (List.nodup_append.1 hnx).2.2 x hc x (by simp) rfl
          have hfilter : (x :: is).filter (fun i => (r.tag i).hasBlockRole) =
              is.filter fun i => (r.tag i).hasBlockRole := by
            simp [hrole]
          rw [hfilter]
          exact ih (h.ignores hx hrole) hn hlt hpis

end Tracks
end State
end Pairing
end LiquidMarkdown
