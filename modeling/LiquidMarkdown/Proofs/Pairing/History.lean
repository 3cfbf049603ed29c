import LiquidMarkdown.Proofs.Pairing.DocumentOrder

/-!
# Pairing whatever was done before

A pairing wipes out whatever earlier pairings and checks left on the tags that take part, and these
never write into tags that take no part.  So tags that were read come out of a pairing in one way,
in whatever order they are given and whatever was done to them since.  This file defines:

* `Roster.SameOn` — two rosters agree, and hold some tags in the same state;
* `State.Alike` — two pairings under way that differ in the state of other tags only,
  `State.Alike.step`;
* `State.Confined` — only the given tags are written, `State.Confined.step`;
* `Pass` — a pairing or a check of some tags, `Pass.runAll`;
* `associate_runAll` — what a pairing comes to does not depend on the passes before it.
-/

namespace LiquidMarkdown

/-! ## Rosters in the same state -/

namespace Roster

variable {P : TagId → Prop} {r r' : Roster}

/-- The rosters hold the same tags, apart from how reading and pairing came out, and some of the
tags are the same in this too. -/
structure SameOn (P : TagId → Prop) (r r' : Roster) : Prop where
  agree : r.Agree r'
  same : ∀ i, P i → r.tag i = r'.tag i

/-- The same is done to a tag in both rosters. -/
theorem SameOn.update (h : r.SameOn P r') (i : TagId) {f : Tag → Tag}
    (hf : ∀ t, (f t).reset = t.reset) : (r.update i f).SameOn P (r'.update i f) where
  agree := (Agree.update hf r i).trans (h.agree.trans (Agree.update hf r' i).symm)
  same j hj := by rw [tag_update, tag_update, h.agree.length_eq, h.same j hj]

theorem SameOn.updateAll (h : r.SameOn P r') (is : List TagId) {f : Tag → Tag}
    (hf : ∀ t, (f t).reset = t.reset) : (r.updateAll is f).SameOn P (r'.updateAll is f) := by
  induction is generalizing r r' with
  | nil => exact h
  | cons i is ih => exact ih (h.update i hf)

/-- A change leaves a tag that it does not change, however often the tag is listed. -/
theorem tag_updateAll_eq_self {i : TagId} {f : Tag → Tag} (h : (r.tag i).mapTag f = r.tag i)
    (is : List TagId) : (r.updateAll is f).tag i = r.tag i := by
  induction is generalizing r with
  | nil => rfl
  | cons j is ih =>
      have hstep : (r.update j f).tag i = r.tag i := by
        rw [tag_update]
        split
        · exact h
        · rfl
      have hrest : ((r.update j f).updateAll is f).tag i = (r.update j f).tag i :=
        ih (by rw [hstep, h])
      exact hrest.trans hstep

end Roster

namespace Pairing

variable {T : TagTables} {P : TagId → Prop} {r r' : Roster} {i : TagId}

/-! ## Pairings in step -/

theorem Frame.sameOn_relate (f : Frame) (h : r.SameOn P r') :
    (f.relate r).SameOn P (f.relate r') := by
  have hconts : f.continuations r = f.continuations r' := by
    simp only [Frame.continuations, h.agree.isContinuation]
  have hend : f.end? r = f.end? r' := by
    simp only [Frame.end?, h.agree.isEnd]
  rw [Frame.relate_eq, Frame.relate_eq, hconts, hend]
  exact (h.update _ (by intro t; rfl)).updateAll _ (by intro t; rfl)

theorem State.sameOn_joinFrame (h : r.SameOn P r') (i : TagId) (f : Frame) :
    (State.joinFrame r i f).SameOn P (State.joinFrame r' i f) :=
  h.update i (by intro t; rfl)

/-- The pairings have come to the same so far, and some of the tags are in the same state. -/
structure State.Alike (P : TagId → Prop) (s s' : State) : Prop where
  roster : s.roster.SameOn P s'.roster
  ids : s.ids = s'.ids
  opened : s.opened = s'.opened
  closed : s.closed = s'.closed
  orphans : s.orphans = s'.orphans

namespace State.Alike

variable {s s' : State}

theorem orphan (h : s.Alike P s') (i : TagId) (f : Fault) :
    (s.orphan i f).Alike P (s'.orphan i f) where
  roster := h.roster.update i (by intro t; rfl)
  ids := h.ids
  opened := h.opened
  closed := h.closed
  orphans := by rw [State.orphan, State.orphan, h.orphans]

theorem openFrame (h : s.Alike P s') (i : TagId) (name : Text) :
    (s.openFrame i name).Alike P (s'.openFrame i name) := by
  rcases s with ⟨r, ids, opened, closed, orphans⟩
  rcases s' with ⟨r', ids', opened', closed', orphans'⟩
  rcases h with ⟨hr, rfl, rfl, rfl, rfl⟩
  exact ⟨hr.update i (by intro t; rfl), rfl, rfl, rfl, rfl⟩

theorem closeFrame (h : s.Alike P s') (i : TagId) (name : Text) :
    (s.closeFrame i name).Alike P (s'.closeFrame i name) := by
  simp only [State.closeFrame, h.opened]
  split
  · exact h.orphan i _
  · exact ⟨Frame.sameOn_relate _ (State.sameOn_joinFrame h.roster i _), h.ids, rfl,
      by rw [h.closed], h.orphans⟩

theorem continueFrame (h : s.Alike P s') (i : TagId) (name : Text) :
    (s.continueFrame T i name).Alike P (s'.continueFrame T i name) := by
  unfold State.continueFrame
  split
  · exact h.orphan i _
  · rw [h.opened]
    split
    · exact h.orphan i _
    · exact ⟨State.sameOn_joinFrame h.roster i _, h.ids, rfl, h.closed, h.orphans⟩

/-- One tag more is paired in the same way: only its name and its roles are read. -/
theorem step (h : s.Alike P s') (T : TagTables) (i : TagId) :
    (s.step T i).Alike P (s'.step T i) := by
  simp only [State.step, h.roster.agree.isStart, h.roster.agree.isEnd,
    h.roster.agree.isContinuation, h.roster.agree.name]
  split
  · exact h.openFrame i _
  · split
    · exact h.closeFrame i _
    · split
      · exact h.continueFrame i _
      · exact h

theorem foldl (h : s.Alike P s') (T : TagTables) (is : List TagId) :
    (is.foldl (State.step T) s).Alike P (is.foldl (State.step T) s') := by
  induction is generalizing s s' with
  | nil => exact h
  | cons i is ih => exact ih (h.step T i)

end State.Alike

theorem sameOn_foldl_leaveOpen (h : r.SameOn P r') (fs : List Frame) :
    (fs.foldl State.leaveOpen r).SameOn P (fs.foldl State.leaveOpen r') := by
  induction fs generalizing r r' with
  | nil => exact h
  | cons f fs ih => exact ih (Frame.sameOn_relate f (h.update f.start (by intro t; rfl)))

/-- A whole pairing comes to the same, and leaves the tags in the same state that were so before. -/
theorem sameOn_paired (h : r.SameOn P r') (T : TagTables) (ids : IdSource) (parts : List TagId) :
    (paired T ids parts r).1.SameOn P (paired T ids parts r').1 ∧
      (paired T ids parts r).2 = (paired T ids parts r').2 := by
  have hstart : State.Alike P { roster := r, ids := ids } { roster := r', ids := ids } :=
    ⟨h, rfl, rfl, rfl, rfl⟩
  have hsteps := hstart.foldl T parts
  simp only [paired, hsteps.opened, hsteps.closed, hsteps.orphans, hsteps.ids, and_true]
  exact sameOn_foldl_leaveOpen hsteps.roster _

/-! ## Tags that are not given -/

/-- The tags that are not given are as they were, and the open frames hold given tags only. -/
structure State.Confined (js : List TagId) (r : Roster) (s : State) : Prop where
  unique : s.opened.Unique
  frames : ∀ f ∈ s.opened.all, ∀ k ∈ f.start :: f.members, k ∈ js
  spared : ∀ i, i ∉ js → s.roster.tag i = r.tag i

/-- A frame relates no other tags than its own. -/
theorem Frame.tag_relate_of_notMem {f : Frame} (hi : i ∉ f.start :: f.members) :
    (f.relate r).tag i = r.tag i := by
  rw [List.mem_cons, not_or] at hi
  have hothers : i ∉ f.continuations r ++ (f.end? r).toList := by
    intro hmem
    rcases List.mem_append.1 hmem with hmem | hmem
    · exact hi.2 (List.mem_of_mem_filter hmem)
    · exact hi.2 (List.mem_of_find?_eq_some (Option.mem_toList.1 hmem))
  rw [Frame.relate_eq, Roster.tag_updateAll_of_notMem _ hothers,
    Roster.tag_update_of_ne _ (Ne.symm hi.1)]

namespace State.Confined

variable {s : State} {js : List TagId} {j : TagId}

theorem tag_update (h : s.Confined js r) (hj : j ∈ js) (f : Tag → Tag) (hi : i ∉ js) :
    (s.roster.update j f).tag i = r.tag i := by
  have hne : j ≠ i := by
    rintro rfl
    exact hi hj
  rw [Roster.tag_update_of_ne _ hne, h.spared i hi]

/-- The frames that stay open where a type is set are those that are set, and some that were open.
-/
theorem frames_set (h : s.Confined js r) (X : Text) {fs : List Frame}
    (hfs : ∀ f ∈ fs, ∀ k ∈ f.start :: f.members, k ∈ js) :
    ∀ f ∈ (s.opened.set X fs).all, ∀ k ∈ f.start :: f.members, k ∈ js := by
  intro f hf
  rcases List.mem_append.1 ((OpenFrames.all_set_perm h.unique X fs).mem_iff.1 hf) with hf | hf
  · exact hfs f hf
  · exact h.frames f ((OpenFrames.all_perm h.unique X).mem_iff.2 (List.mem_append_right _ hf))

theorem frames_ofType (h : s.Confined js r) {X : Text} {fs : List Frame}
    (hX : s.opened.ofType X = fs) : ∀ f ∈ fs, ∀ k ∈ f.start :: f.members, k ∈ js := by
  intro f hf
  rw [← hX] at hf
  exact h.frames f ((OpenFrames.all_perm h.unique X).mem_iff.2 (List.mem_append_left _ hf))

theorem extend {f : Frame} (hf : ∀ k ∈ f.start :: f.members, k ∈ js) (hj : j ∈ js) :
    ∀ k ∈ (f.extend j).start :: (f.extend j).members, k ∈ js := by
  intro k hk
  rcases List.mem_cons.1 hk with rfl | hk
  · exact hf _ List.mem_cons_self
  · rcases List.mem_append.1 hk with hk | hk
    · exact hf k (List.mem_cons_of_mem _ hk)
    · rwa [List.mem_singleton.1 hk]

/-- One of the given tags more leaves the other tags alone. -/
theorem step (h : s.Confined js r) (T : TagTables) (hj : j ∈ js) : (s.step T j).Confined js r := by
  have hstep := stepped_step T s j
  generalize s.step T j = s' at hstep
  cases hstep with
  | opens hs =>
      refine ⟨OpenFrames.unique_set h.unique _ _, h.frames_set _ ?_,
        fun i hi => h.tag_update hj _ hi⟩
      intro f hf
      rcases List.mem_cons.1 hf with rfl | hf
      · intro k hk
        rcases List.mem_cons.1 hk with rfl | hk
        · exact hj
        · rwa [List.mem_singleton.1 hk]
      · exact h.frames_ofType rfl f hf
  | @closes X f fs hs he hX hf =>
      -- The frame relates its members, and all of them were given.
      have hframes := h.frames_ofType hf
      have hextend := extend (hframes f List.mem_cons_self) hj
      refine ⟨OpenFrames.unique_set h.unique _ _,
        h.frames_set _ fun g hg => hframes g (List.mem_cons_of_mem _ hg), ?_⟩
      intro i hi
      calc
        ((f.extend j).relate (joinFrame s.roster j f)).tag i
            = (joinFrame s.roster j f).tag i :=
              Frame.tag_relate_of_notMem fun hmem => hi (hextend i hmem)
        _ = r.tag i := h.tag_update hj _ hi
  | @continues X f fs hs he hc hX hf =>
      have hframes := h.frames_ofType hf
      refine ⟨OpenFrames.unique_set h.unique _ _, h.frames_set _ ?_,
        fun i hi => h.tag_update hj _ hi⟩
      intro g hg
      rcases List.mem_cons.1 hg with rfl | hg
      · exact extend (hframes f List.mem_cons_self) hj
      · exact hframes g (List.mem_cons_of_mem _ hg)
  | orphan hs hrole hX => exact ⟨h.unique, h.frames, fun i hi => h.tag_update hj _ hi⟩
  | ignores hrole => exact h

theorem foldl (h : s.Confined js r) (T : TagTables) {is : List TagId} (his : ∀ i ∈ is, i ∈ js) :
    (is.foldl (State.step T) s).Confined js r := by
  induction is generalizing s with
  | nil => exact h
  | cons j is ih =>
      exact ih (h.step T (his j List.mem_cons_self)) fun i hi => his i (List.mem_cons_of_mem _ hi)

end State.Confined

theorem tag_foldl_leaveOpen_of_notMem {js : List TagId} {fs : List Frame}
    (hfs : ∀ f ∈ fs, ∀ k ∈ f.start :: f.members, k ∈ js) (hi : i ∉ js) :
    (fs.foldl State.leaveOpen r).tag i = r.tag i := by
  induction fs generalizing r with
  | nil => rfl
  | cons f fs ih =>
      have hf := hfs f List.mem_cons_self
      have hne : f.start ≠ i := by
        intro hc
        exact hi (hc ▸ hf f.start List.mem_cons_self)
      calc
        ((f :: fs).foldl State.leaveOpen r).tag i
            = (State.leaveOpen r f).tag i := ih fun g hg => hfs g (List.mem_cons_of_mem _ hg)
        _ = (r.update f.start (markFault (.unclosed f.blockType))).tag i :=
              Frame.tag_relate_of_notMem fun hmem => hi (hf i hmem)
        _ = r.tag i := Roster.tag_update_of_ne _ hne _

/-- A pairing leaves the tags alone that are not given. -/
theorem tag_associate_of_notMem (T : TagTables) (ids : IdSource) {is : List TagId} (hi : i ∉ is) :
    (associate T ids r is).1.tag i = r.tag i := by
  have hparts : ∀ k ∈ participants r is, k ∈ is := by
    intro k hk
    exact Roster.mem_inDocumentOrder.1 (List.mem_of_mem_filter hk)
  have hfresh : (fresh r is).tag i = r.tag i :=
    Roster.tag_updateAll_of_notMem r (fun hmem => hi (hparts i hmem)) _
  have hstart : State.Confined is (fresh r is) { roster := fresh r is, ids := ids } :=
    ⟨List.nodup_nil, fun _ hf => absurd hf List.not_mem_nil, fun _ _ => rfl⟩
  have hsteps := hstart.foldl T hparts
  calc
    (associate T ids r is).1.tag i
        = ((participants r is).foldl (State.step T)
            { roster := fresh r is, ids := ids }).roster.tag i :=
          tag_foldl_leaveOpen_of_notMem hsteps.frames hi
    _ = (fresh r is).tag i := hsteps.spared i hi
    _ = r.tag i := hfresh

/-! ## Earlier passes -/

/-- A pass over some tags: a pairing, or a check. -/
inductive Pass where
  | associate (T : TagTables) (ids : IdSource) (is : List TagId)
  | check (is : List TagId)

namespace Pass

/-- What a pass leaves behind. -/
def run (r : Roster) : Pass → Roster
  | associate T ids is => (Pairing.associate T ids r is).1
  | check is => (Pairing.check r is).1

/-- What some passes leave behind, one after another. -/
def runAll (r : Roster) (passes : List Pass) : Roster :=
  passes.foldl run r

theorem agree_run (r : Roster) (p : Pass) : (p.run r).Agree r := by
  cases p with
  | associate T ids is => exact agree_associate T ids r is
  | check is => exact agree_check r is

theorem agree_runAll (r : Roster) (passes : List Pass) : (runAll r passes).Agree r := by
  induction passes generalizing r with
  | nil => exact .refl r
  | cons p passes ih => exact (ih (p.run r)).trans (agree_run r p)

/-- No pass writes into a tag without a role that keeps no error to clear. -/
theorem tag_run_of_bystander (p : Pass) (hi : (r.tag i).hasBlockRole = false)
    (hsettled : (r.tag i).Settled) : (p.run r).tag i = r.tag i := by
  cases p with
  | associate T ids is => exact tag_associate_of_bystander T ids is hi
  | check is =>
      have hclear : (r.tag i).mapTag clearError = r.tag i := by
        rw [PlacedTag.mapTag, clearError_eq_self hsettled]
      calc
        ((Pass.check is).run r).tag i = (r.updateAll is clearError).tag i :=
          tag_check_of_bystander is hi
        _ = r.tag i := Roster.tag_updateAll_eq_self hclear is

theorem tag_runAll_of_bystander (passes : List Pass) (hi : (r.tag i).hasBlockRole = false)
    (hsettled : (r.tag i).Settled) : (runAll r passes).tag i = r.tag i := by
  induction passes generalizing r with
  | nil => rfl
  | cons p passes ih =>
      have hstep := p.tag_run_of_bystander hi hsettled
      have hrest : (runAll (p.run r) passes).tag i = (p.run r).tag i := by
        apply ih
        · rw [hstep, hi]
        · rw [hstep]
          exact hsettled
      exact hrest.trans hstep

end Pass

/-! ## Pairing anew -/

/-- Where the tags agree, and those among the given ones that take no part are in the same state,
all of the given ones are so once those that take part are wiped out. -/
theorem sameOn_fresh (ha : r'.Agree r) {is : List TagId} (hn : is.Nodup)
    (hb : ∀ i ∈ is, (r.tag i).hasBlockRole = false → r'.tag i = r.tag i) :
    (fresh r' is).SameOn (· ∈ is) (fresh r is) where
  agree := by
    have hfresh (s : Roster) : (fresh s is).Agree s := .updateAll (by intro t; rfl) _ _
    exact (hfresh r').trans (ha.trans (hfresh r).symm)
  same i hi := by
    have hrole := ha.hasBlockRole i
    -- A tag that takes part is wiped out in both rosters; any other was the same in both before.
    cases hi' : (r.tag i).hasBlockRole with
    | true =>
        have hlt := Roster.lt_length_of_hasBlockRole hi'
        rw [tag_fresh hn hi (ha.length_eq ▸ hlt) (hrole.trans hi'), tag_fresh hn hi hlt hi',
          ha.tag_reset]
    | false =>
        rw [tag_fresh_of_bystander is (hrole.trans hi'), tag_fresh_of_bystander is hi', hb i hi hi']

/-- Tags at different places are paired in one way only, if those that take no part keep no error to
clear, as reading leaves them: in whatever order the tags are given and whatever passes came before,
on these or on other tags, the result and the ids are the same, and each of the tags comes out the
same.  To pair them twice leaves all tags as pairing them once does. -/
theorem associate_runAll (T : TagTables) (ids : IdSource) {is js : List TagId} (hp : js.Perm is)
    (hplaced : ∀ i ∈ is, (r.tag i).offset?.isSome = true)
    (hdistinct : (is.map fun i => (r.tag i).offset?).Nodup)
    (hsettled : ∀ i ∈ is, (r.tag i).hasBlockRole = false → (r.tag i).Settled) :
    (∀ passes, (associate T ids (Pass.runAll r passes) js).2 = (associate T ids r is).2 ∧
      ∀ i ∈ is, (associate T ids (Pass.runAll r passes) js).1.tag i =
        (associate T ids r is).1.tag i) ∧
      associate T ids (associate T ids r is).1 is = associate T ids r is := by
  have hn : is.Nodup := hdistinct.of_map
  have hanew (passes : List Pass) {ks : List TagId} (hks : ks.Perm is) :
      (associate T ids (Pass.runAll r passes) ks).2 = (associate T ids r is).2 ∧
        ∀ i ∈ is, (associate T ids (Pass.runAll r passes) ks).1.tag i =
          (associate T ids r is).1.tag i := by
    -- What the passes change decides neither which tags take part nor in which order they do.
    have hagree := Pass.agree_runAll r passes
    have hfresh : (fresh (Pass.runAll r passes) is).SameOn (· ∈ is) (fresh r is) :=
      sameOn_fresh hagree hn fun i hi hrole =>
        Pass.tag_runAll_of_bystander passes hrole (hsettled i hi hrole)
    have hparts : participants (Pass.runAll r passes) is = participants r is :=
      hagree.participants is
    have horder :
        participants (Pass.runAll r passes) ks = participants (Pass.runAll r passes) is := by
      rw [hagree.participants, hagree.participants, participants, participants,
        Roster.inDocumentOrder_perm_eq hks hplaced hdistinct]
    have hpaired := sameOn_paired hfresh T ids (participants r is)
    rw [associate_congr_participants T ids horder, associate_eq_paired, associate_eq_paired, hparts]
    exact ⟨hpaired.2, hpaired.1.same⟩
  refine ⟨fun passes => hanew passes hp, ?_⟩
  -- The first of two pairings is a pass before the second, which leaves all other tags alone.
  rcases hanew [.associate T ids is] (.refl is) with ⟨hresult, htags⟩
  refine Prod.ext ?_ hresult
  apply Roster.ext_tag
  · exact (agree_associate T ids (associate T ids r is).1 is).length_eq
  · intro i
    by_cases hi : i ∈ is
    · exact htags i hi
    · exact tag_associate_of_notMem T ids hi

/-- A block whose tags are listed backwards, with an assignment in its body, and a tag that closes
nothing. -/
def backwards : Roster :=
  [.ofText "{% endfor %}" (some 30), .ofText "{% endif %}" (some 20),
    .ofText "{% assign x = 1 %}" (some 10), .ofText "{% if a %}" (some 0)]

theorem associate_runAll_backwards :
    ([3, 0, 2, 1] : List TagId).Perm [0, 1, 2, 3] ∧
      (∀ i ∈ [0, 1, 2, 3], (backwards.tag i).offset?.isSome = true) ∧
      ([0, 1, 2, 3].map fun i => (backwards.tag i).offset?).Nodup ∧
      (∀ i ∈ [0, 1, 2, 3], (backwards.tag i).hasBlockRole = false → (backwards.tag i).Settled) ∧
      (associate .standard {} (Pass.runAll backwards
          [.associate .standard { label := "old-" } [3, 0], .check [1, 2, 3]]) [3, 0, 2, 1]).2 =
        (associate .standard {} backwards [0, 1, 2, 3]).2 ∧
      associate .standard {} (associate .standard {} backwards [0, 1, 2, 3]).1 [0, 1, 2, 3] =
        associate .standard {} backwards [0, 1, 2, 3] := by
  have hperm : ([3, 0, 2, 1] : List TagId).Perm [0, 1, 2, 3] := by decide
  have hplaced : ∀ i ∈ [0, 1, 2, 3], (backwards.tag i).offset?.isSome = true := by decide
  have hdistinct : ([0, 1, 2, 3].map fun i => (backwards.tag i).offset?).Nodup := by decide
  have hsettled : ∀ i ∈ [0, 1, 2, 3], (backwards.tag i).hasBlockRole = false →
      (backwards.tag i).Settled := by
    intro i hi _
    simp only [List.mem_cons, List.not_mem_nil, or_false] at hi
    rcases hi with rfl | rfl | rfl | rfl
    all_goals exact PlacedTag.settled_ofText _ _
  have hanew := associate_runAll .standard {} hperm hplaced hdistinct hsettled
  exact ⟨hperm, hplaced, hdistinct, hsettled, (hanew.1 _).1, hanew.2⟩

end Pairing
end LiquidMarkdown
