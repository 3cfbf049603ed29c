import LiquidMarkdown.Proofs.Pairing.Invariant

/-!
# What a pairing comes to

When all tags were seen, the frames that are still open are swept: their opening tags have failed,
and their other tags are related to them all the same.  This file states:

* `Frame.Left` — what is written into the tags of a frame that was never closed;
* `foldl_leaveOpen` — what the sweep writes;
* `Associated` — every tag that takes part is in one frame or is an orphan, and what is written
  into it;
* `associated_of_singleRole`, `associated_associate` — a pairing comes to that;
* `Associated.exists_frame`, `Associated.settled_or_orphaned` — what it comes to for a single tag.
-/

namespace LiquidMarkdown
namespace Pairing

variable {T : TagTables} {r r₀ r' : Roster} {ps : List TagId}

/-! ## Frames that were never closed -/

/-- The frame was never closed: its opening tag has failed, and its tags are related. -/
def Frame.Left (T : TagTables) (r r₀ : Roster) (ps : List TagId) (r' : Roster) (f : Frame) : Prop :=
  ∃ conts, f.Collects T r ps conts none ∧
    f.Written r₀ r'
      (fun t => (markFault (.unclosed f.blockType) (Tag.opening f.id t)).withRelated f.others)
      (fun t => (Tag.joining f.id t).withRelated [f.start])

theorem tag_leaveOpen_of_notMem {f : Frame} (hp : f.Pending T r r₀ ps r') (ha : r'.Agree r)
    {k : TagId} (hk : k ∉ f.members) : (State.leaveOpen r' f).tag k = r'.tag k := by
  rcases hp with ⟨conts, hc, _⟩
  have hagree : (r'.update f.start (markFault (.unclosed f.blockType))).Agree r :=
    (agree_markFault _ _ _).trans ha
  have hne : f.start ≠ k := fun hfk => hk (hfk ▸ hc.start_mem)
  rw [State.leaveOpen, (hc.toConsists.of_agree hagree).tag_relate_of_notMem hk,
    Roster.tag_update_of_ne _ hne]

/-- A frame that is swept has its tags related. -/
theorem left_leaveOpen {f : Frame} (hp : f.Pending T r r₀ ps r') (ha : r'.Agree r)
    (hn : f.members.Nodup) (hlt : ∀ k ∈ f.members, k < r.length) :
    f.Left T r r₀ ps (State.leaveOpen r' f) := by
  rcases hp with ⟨conts, hc, hw⟩
  have hagree : (r'.update f.start (markFault (.unclosed f.blockType))).Agree r :=
    (agree_markFault _ _ _).trans ha
  have hconsists := hc.toConsists.of_agree hagree
  have hothers : f.others = conts ++ (none : Option TagId).toList := hc.others_eq'
  have hlt' {k : TagId} (hk : k ∈ f.members) :
      k < (r'.update f.start (markFault (.unclosed f.blockType))).length := by
    rw [hagree.length_eq]
    exact hlt k hk
  refine ⟨conts, hc, ?_, ?_⟩
  · have hstart : f.start < r'.length := by
      rw [ha.length_eq]
      exact hlt _ hc.start_mem
    -- The opening tag is written to twice: it fails first, and is related then.
    rw [State.leaveOpen, hconsists.tag_relate_start hn (hlt' hc.start_mem),
      Roster.tag_update_self hstart, hw.1, hothers]
    rfl
  · intro k hk
    have hkm : k ∈ f.members := List.mem_of_mem_tail hk
    have hne : f.start ≠ k := by
      intro hfk
      rw [hc.members, List.nodup_cons, ← hothers, hfk] at hn
      exact hn.1 hk
    rw [State.leaveOpen, hconsists.tag_relate_other hn (hothers ▸ hk) (hlt' hkm),
      Roster.tag_update_of_ne _ hne, hw.2 k hk]
    rfl

/-- The sweep writes into the tags of the frames that it sweeps, and into no others. -/
theorem foldl_leaveOpen {fs : List Frame} (hp : ∀ f ∈ fs, f.Pending T r r₀ ps r')
    (ha : r'.Agree r) (hn : (fs.flatMap (·.members)).Nodup)
    (hlt : ∀ f ∈ fs, ∀ k ∈ f.members, k < r.length) :
    (∀ f ∈ fs, f.Left T r r₀ ps (fs.foldl State.leaveOpen r')) ∧
      ∀ k, k ∉ fs.flatMap (·.members) → (fs.foldl State.leaveOpen r').tag k = r'.tag k := by
  induction fs generalizing r' with
  | nil => exact ⟨fun _ hf => absurd hf List.not_mem_nil, fun _ _ => rfl⟩
  | cons f fs ih =>
      rw [List.flatMap_cons, List.nodup_append] at hn
      rcases hn with ⟨hnf, hnfs, hapart⟩
      have hpf := hp f List.mem_cons_self
      have hagree : (State.leaveOpen r' f).Agree r :=
        (agree_relate _ _).trans ((agree_markFault _ _ _).trans ha)
      -- The other frames share no tag with this one, so they are as they were.
      have hpfs (f' : Frame) (hf' : f' ∈ fs) : f'.Pending T r r₀ ps (State.leaveOpen r' f) := by
        rcases hp f' (List.mem_cons_of_mem _ hf') with ⟨conts, hc, hw⟩
        refine ⟨conts, hc, hw.congr hc.start_mem fun k hk => tag_leaveOpen_of_notMem hpf ha ?_⟩
        exact fun hkf => hapart k hkf k (List.mem_flatMap.2 ⟨f', hf', hk⟩) rfl
      rcases ih hpfs hagree hnfs fun f' hf' => hlt f' (List.mem_cons_of_mem _ hf') with
        ⟨hleft, hrest⟩
      rw [List.foldl_cons]
      constructor
      · intro f' hf'
        rcases List.mem_cons.1 hf' with rfl | hf'
        · rcases left_leaveOpen hpf ha hnf (hlt f' List.mem_cons_self) with ⟨conts, hc, hw⟩
          refine ⟨conts, hc, hw.congr hc.start_mem fun k hk => hrest k ?_⟩
          intro hkfs
          exact hapart k hk k hkfs rfl
        · exact hleft f' hf'
      · intro k hk
        rw [List.flatMap_cons, List.mem_append, not_or] at hk
        rw [hrest k hk.2, tag_leaveOpen_of_notMem hpf ha hk.1]

/-! ## The whole pairing -/

/-- What a pairing of the tags `ps` comes to: every tag that takes part is in one frame or is an
orphan.  Here `r` holds the roles of the tags, `r₀` the tags as they were before, and `r'` the tags
as they are now. -/
structure Associated (T : TagTables) (r r₀ : Roster) (ps : List TagId) (r' : Roster)
    (res : Result) :
    Prop where
  agree : r'.Agree r
  untouched : ∀ i, (i ∈ ps → (r.tag i).hasBlockRole = false) → r'.tag i = r₀.tag i
  members : ((res.unclosed ++ res.closed).flatMap (·.members) ++ res.orphans).Perm
    (ps.filter fun i => (r.tag i).hasBlockRole)
  closed : ∀ f ∈ res.closed, f.Closed T r r₀ ps r'
  unclosed : ∀ f ∈ res.unclosed, f.Left T r r₀ ps r'
  orphans : ∀ i ∈ res.orphans, Orphaned T r r₀ ps r' i

/-- The sweep ends a pairing. -/
theorem State.Tracks.associated {s : State} (h : s.Tracks T r r₀ ps) (hn : ps.Nodup)
    (hlt : ∀ i ∈ ps, i < r.length) :
    Associated T r r₀ ps (s.opened.all.foldl State.leaveOpen s.roster)
      ⟨s.closed, s.opened.all, s.orphans⟩ := by
  have hnodup := h.nodup_members hn
  rw [frames, List.flatMap_append, List.nodup_append, List.nodup_append] at hnodup
  -- The sweep writes to no tag of a closed frame, and to no orphan.
  rcases hnodup with ⟨⟨hopen, _, hclosed⟩, _, horphans⟩
  have hmem {f : Frame} (hf : f ∈ s.opened.all) {k : TagId} (hk : k ∈ f.members) : k ∈ ps :=
    h.mem_of_mem_members (List.mem_append_left _ hf) hk
  obtain ⟨hleft, hrest⟩ := foldl_leaveOpen h.pending h.agree hopen
    fun f hf k hk => hlt k (hmem hf hk)
  refine {
    agree := (agree_foldl_leaveOpen _ _).trans h.agree
    untouched := ?untouched
    members := h.members
    closed := ?closed
    unclosed := hleft
    orphans := ?orphans }
  case untouched =>
    intro i hi
    have hnot : i ∉ s.opened.all.flatMap (·.members) := by
      intro hk
      rcases List.mem_flatMap.1 hk with ⟨f, hf, hk⟩
      have hmem := List.mem_filter.1 (h.mem_filter_of_mem_members (List.mem_append_left _ hf) hk)
      have hno := hi hmem.1
      simp [hno] at hmem
    rw [hrest i hnot, h.untouched i hi]
  case closed =>
    intro f hf
    rcases h.closed f hf with ⟨conts, j, hc, hw⟩
    refine ⟨conts, j, hc, hw.congr hc.start_mem fun k hk => hrest k ?_⟩
    intro hko
    exact hclosed k hko k (List.mem_flatMap.2 ⟨f, hf, hk⟩) rfl
  case orphans =>
    intro i hi
    have horphaned := h.orphans i hi
    have hnot : i ∉ s.opened.all.flatMap (·.members) := by
      intro hko
      exact horphans i (List.mem_append_left _ hko) i hi rfl
    refine ⟨horphaned.isStart, horphaned.mem, horphaned.host, ?_⟩
    rw [hrest i hnot, horphaned.written]

/-- The tags as a pairing finds them: what an earlier one left on them is wiped out. -/
def fresh (r : Roster) (is : List TagId) : Roster :=
  r.updateAll (participants r is) Tag.reset

/-- A pairing puts every tag that takes part into one frame or makes it an orphan. -/
theorem associated_of_singleRole (ids : IdSource) {is : List TagId} (hn : is.Nodup)
    (hlt : ∀ i ∈ is, i < r.length) (hr : ∀ i ∈ is, (r.tag i).SingleRole) :
    Associated T r (fresh r is) (r.inDocumentOrder is) (associate T ids r is).1
      (associate T ids r is).2.1 := by
  have hagree : (fresh r is).Agree r := .updateAll (by intro t; rfl) _ _
  have hn' : (r.inDocumentOrder is).Nodup := Roster.nodup_inDocumentOrder hn
  have hlt' (i : TagId) (hi : i ∈ r.inDocumentOrder is) : i < r.length :=
    hlt i (Roster.mem_inDocumentOrder.1 hi)
  have hstart : State.Tracks T r (fresh r is) [] { roster := fresh r is, ids := ids } :=
    .start ids hagree
  have hnil : [] ++ r.inDocumentOrder is = r.inDocumentOrder is := rfl
  have htracks := hstart.foldl (hnil ▸ hn') (hnil ▸ hlt')
    fun i hi => hr i (Roster.mem_inDocumentOrder.1 hi)
  exact htracks.associated hn' hlt'

/-- So it does with tags that were read under the tables of the pairing. -/
theorem associated_associate (ids : IdSource) {is : List TagId} (hn : is.Nodup)
    (hlt : ∀ i ∈ is, i < r.length) (hp : ∀ i ∈ is, (r.tag i).Prepared T) :
    Associated T r (fresh r is) (r.inDocumentOrder is) (associate T ids r is).1
      (associate T ids r is).2.1 :=
  associated_of_singleRole ids hn hlt fun i hi => (hp i hi).singleRole

/-! ## Single tags -/

/-- Behind a pairing, the opening tag of a frame names the other tags, and each of these has the id
of the frame and names the opening tag. -/
structure Frame.Settled (T : TagTables) (r r₀ : Roster) (ps : List TagId) (r' : Roster)
    (f : Frame) : Prop where
  members : f.members = f.start :: f.others
  opens : (r.brackets f.blockType).opens f.start = true
  host : ∀ k, k ∈ f.others ↔ r.Host T ps k f.start
  blockId : (r'.tag f.start).blockId = some f.id
  related : (r'.tag f.start).related = f.others
  other : ∀ k ∈ f.others,
    r'.tag k = (r₀.tag k).mapTag fun t => (Tag.joining f.id t).withRelated [f.start]

theorem Frame.Collects.settled {f : Frame} {conts : List TagId} {stop : Option TagId}
    {g : Tag → Tag} (hc : f.Collects T r ps conts stop)
    (hw : f.Written r₀ r' (fun t => (g t).withRelated f.others)
      (fun t => (Tag.joining f.id t).withRelated [f.start]))
    (hg : ∀ t, (g t).blockId = some f.id) : f.Settled T r r₀ ps r' where
  members := by rw [hc.others_eq', hc.members]
  opens := hc.opens
  host k := by
    rw [hc.others_eq']
    exact hc.host k
  blockId := by
    rw [hw.1]
    exact hg _
  related := by
    rw [hw.1]
    rfl
  other := hw.2

theorem Frame.settled {f : Frame} (h : f.Left T r r₀ ps r' ∨ f.Closed T r r₀ ps r') :
    f.Settled T r r₀ ps r' := by
  rcases h with ⟨conts, hc, hw⟩ | ⟨conts, j, hc, hw⟩
  · exact hc.settled hw fun _ => rfl
  · exact hc.settled hw fun _ => rfl

/-- No tag of a frame but the opening one opens a block. -/
theorem Frame.Settled.isStart_eq_false {f : Frame} (h : f.Settled T r r₀ ps r') {k : TagId}
    (hk : k ∈ f.others) : (r.tag k).isStart = false :=
  ((h.host k).1 hk).isStart_eq_false

namespace Associated

variable {res : Result} {i k : TagId}

/-- A tag that takes part is in a frame or is an orphan. -/
theorem cases_mem (h : Associated T r r₀ ps r' res) (hi : i ∈ ps)
    (hrole : (r.tag i).hasBlockRole = true) :
    (∃ f : Frame, i ∈ f.members ∧ (f.Left T r r₀ ps r' ∨ f.Closed T r r₀ ps r')) ∨
      Orphaned T r r₀ ps r' i := by
  have hmem := h.members.mem_iff.2 (List.mem_filter.2 ⟨hi, hrole⟩)
  rcases List.mem_append.1 hmem with hmem | hmem
  · rcases List.mem_flatMap.1 hmem with ⟨f, hf, hif⟩
    rcases List.mem_append.1 hf with hf | hf
    · exact .inl ⟨f, hif, .inl (h.unclosed f hf)⟩
    · exact .inl ⟨f, hif, .inr (h.closed f hf)⟩
  · exact .inr (h.orphans i hmem)

/-- An opening tag has a frame of its own. -/
theorem exists_frame (h : Associated T r r₀ ps r' res) (hi : i ∈ ps)
    (hs : (r.tag i).isStart = true) :
    ∃ f : Frame, f.start = i ∧ (f.Left T r r₀ ps r' ∨ f.Closed T r r₀ ps r') := by
  rcases h.cases_mem hi (Tag.hasBlockRole_of_isStart hs) with ⟨f, hif, hf⟩ | ho
  · have hsettled := Frame.settled hf
    rw [hsettled.members] at hif
    rcases List.mem_cons.1 hif with hif | hif
    · exact ⟨f, hif.symm, hf⟩
    · rw [hsettled.isStart_eq_false hif] at hs
      cases hs
  · rw [ho.isStart] at hs
    cases hs

/-- Another tag belongs to a frame or is an orphan. -/
theorem settled_or_orphaned (h : Associated T r r₀ ps r' res) (hk : k ∈ ps)
    (hs : (r.tag k).isStart = false) (hrole : (r.tag k).hasBlockRole = true) :
    (∃ f : Frame, f.Settled T r r₀ ps r' ∧ k ∈ f.others) ∨ Orphaned T r r₀ ps r' k := by
  rcases h.cases_mem hk hrole with ⟨f, hkf, hf⟩ | ho
  · have hsettled := Frame.settled hf
    rw [hsettled.members] at hkf
    rcases List.mem_cons.1 hkf with rfl | hkf
    · rw [(Roster.opens_iff.1 hsettled.opens).1] at hs
      cases hs
    · exact .inl ⟨f, hsettled, hkf⟩
  · exact .inr ho

end Associated

end Pairing
end LiquidMarkdown
