import LiquidMarkdown.Proofs.Pairing.Matching
import LiquidMarkdown.Proofs.Pairing.BlockIds

/-!
# Every block tag is accounted for

Whatever earlier readings and pairings left on the tags, a pairing wipes it out and puts every block
tag into one place: into a closed frame, into a frame that was never closed, or among the orphans.
Which tags are related, and which have failed, can be read off these places.  This file defines:

* `Tag.singleRole_read`, `Roster.Agree.singleRole` — reading and pairing leave a tag one role at
  most;
* `Frame.Links` — two tags of a frame one of which opens it, `Associated.mem_related_iff`;
* `Frame.Closed.isSuccess`, `Frame.Left.isSuccess_iff` — which tags of a frame were paired;
* `Accounted` — where the tags are, and what their fields say about it;
* `associateAll_accounted` — pairings that share a source of block ids come to that, and give no id
  twice.
-/

namespace LiquidMarkdown

/-! ## Roles that reading and pairing leave -/

/-- However a tag is read, it has one role at most. -/
theorem Tag.singleRole_read (T : TagTables) {t : Tag} (h : t.SingleRole) :
    (t.read T).SingleRole := by
  by_cases hraw : t.raw = []
  · have hread : t.read T = t := by
      rw [Tag.read, if_pos hraw]
    rwa [hread]
  · exact (Tag.prepared_read T fun hnil => absurd hnil hraw).singleRole

/-- Pairing changes no roles. -/
theorem Roster.Agree.singleRole {r r' : Roster} (h : r'.Agree r) {i : TagId}
    (hr : (r.tag i).SingleRole) : (r'.tag i).SingleRole where
  of_isStart hs := by
    rw [h.isEnd, h.isContinuation]
    exact hr.of_isStart (h.isStart i ▸ hs)
  of_isEnd he := by
    rw [h.isStart, h.isContinuation]
    exact hr.of_isEnd (h.isEnd i ▸ he)

namespace Pairing

variable {T : TagTables} {r r₀ r' : Roster} {ps is : List TagId} {res : Result} {i j : TagId}

/-! ## Tags of a frame -/

namespace Frame

variable {f : Frame}

/-- One of the tags opens the frame, and the other one is another tag of the frame. -/
def Links (f : Frame) (i j : TagId) : Prop :=
  i = f.start ∧ j ∈ f.others ∨ j = f.start ∧ i ∈ f.others

theorem Links.symm (h : f.Links i j) : f.Links j i :=
  Or.symm h

theorem Settled.links_of_mem_related (h : f.Settled T r r₀ ps r') (hi : i ∈ f.members)
    (hj : j ∈ (r'.tag i).related) : f.Links i j := by
  rw [h.members] at hi
  rcases List.mem_cons.1 hi with rfl | hi
  · exact .inl ⟨rfl, h.related ▸ hj⟩
  · rw [h.other i hi] at hj
    exact .inr ⟨List.mem_singleton.1 hj, hi⟩

theorem Settled.mem_related (h : f.Settled T r r₀ ps r') (hij : f.Links i j) :
    j ∈ (r'.tag i).related := by
  rcases hij with ⟨rfl, hj⟩ | ⟨rfl, hi⟩
  · rwa [h.related]
  · rw [h.other i hi]
    exact List.mem_singleton_self _

/-- The tags of a frame have its id. -/
theorem Settled.blockId_eq (h : f.Settled T r r₀ ps r') (hi : i ∈ f.members) :
    (r'.tag i).blockId = some f.id := by
  rw [h.members] at hi
  rcases List.mem_cons.1 hi with rfl | hi
  · exact h.blockId
  · rw [h.other i hi]
    rfl

theorem Settled.mem_members (h : f.Settled T r r₀ ps r') (hij : f.Links i j) : i ∈ f.members := by
  rw [h.members]
  rcases hij with ⟨rfl, _⟩ | ⟨_, hi⟩
  · exact List.mem_cons_self
  · exact List.mem_cons_of_mem _ hi

/-- Of two tags that name each other, one opens the frame and the other one does not. -/
theorem Settled.isStart_eq_not (h : f.Settled T r r₀ ps r') (hij : f.Links i j) :
    (r.tag i).isStart = !(r.tag j).isStart := by
  have hstart : (r.tag f.start).isStart = true := (Roster.opens_iff.1 h.opens).1
  rcases hij with ⟨rfl, hj⟩ | ⟨rfl, hi⟩
  · simp [hstart, h.isStart_eq_false hj]
  · simp [hstart, h.isStart_eq_false hi]

/-- All tags of a closed frame were paired. -/
theorem Closed.isSuccess (h : f.Closed T r r₀ ps r') (hi : i ∈ f.members) :
    (r'.tag i).isSuccess = true := by
  have hmembers := (Frame.settled (.inr h)).members
  rcases h with ⟨conts, stop, _, hstart, hothers⟩
  rw [hmembers] at hi
  rcases List.mem_cons.1 hi with rfl | hi
  · rw [hstart]
    rfl
  · rw [hothers i hi]
    rfl

/-- Of the tags of a frame that was never closed, the continuations were paired. -/
theorem Left.isSuccess_iff (h : f.Left T r r₀ ps r') (hi : i ∈ f.members) :
    (r'.tag i).isSuccess = true ↔ (r.tag i).isContinuation = true := by
  have hmembers := (Frame.settled (.inl h)).members
  rcases h with ⟨conts, hcollects, hstart, hothers⟩
  rw [hmembers] at hi
  rcases List.mem_cons.1 hi with rfl | hi
  · -- The opening tag was marked as unclosed.
    have hfailed : (r'.tag f.start).isSuccess = false := by
      rw [hstart]
      rfl
    simp [hfailed, hcollects.start_isContinuation]
  · -- The other tags are continuations, for there is no closing tag.
    have hsuccess : (r'.tag i).isSuccess = true := by
      rw [hothers i hi]
      rfl
    rw [hcollects.others_eq', Option.toList_none, List.append_nil] at hi
    simp [hsuccess, hcollects.conts_isContinuation i hi]

end Frame

/-! ## Where a tag is -/

/-- A tag that takes part is wiped out before the pairing. -/
theorem tag_fresh (hn : is.Nodup) (hi : i ∈ is) (hlt : i < r.length)
    (hrole : (r.tag i).hasBlockRole = true) :
    (fresh r is).tag i = (r.tag i).mapTag Tag.reset := by
  have hmem : i ∈ participants r is :=
    List.mem_filter.2 ⟨Roster.mem_inDocumentOrder.2 hi, hrole⟩
  have hnodup : (participants r is).Nodup := (Roster.nodup_inDocumentOrder hn).filter _
  exact Roster.tag_updateAll_of_mem hnodup hmem hlt _

namespace Associated

theorem frame_settled (h : Associated T r r₀ ps r' res) {f : Frame} (hf : f ∈ res.frames) :
    f.Settled T r r₀ ps r' := by
  rcases List.mem_append.1 hf with hf | hf
  · exact Frame.settled (.inl (h.unclosed f hf))
  · exact Frame.settled (.inr (h.closed f hf))

/-- A tag that takes part is in a frame or is an orphan. -/
theorem mem_frame_or_orphan (h : Associated T r r₀ ps r' res) (hi : i ∈ ps)
    (hrole : (r.tag i).hasBlockRole = true) :
    (∃ f ∈ res.frames, i ∈ f.members) ∨ i ∈ res.orphans := by
  have hmem := h.members.mem_iff.2 (List.mem_filter.2 ⟨hi, hrole⟩)
  rcases List.mem_append.1 hmem with hmem | hmem
  · exact .inl (List.mem_flatMap.1 hmem)
  · exact .inr hmem

theorem mem_of_mem_members (h : Associated T r r₀ ps r' res) {f : Frame} (hf : f ∈ res.frames)
    (hi : i ∈ f.members) : i ∈ ps ∧ (r.tag i).hasBlockRole = true := by
  have hmem : i ∈ res.frames.flatMap (·.members) := List.mem_flatMap.2 ⟨f, hf, hi⟩
  simpa using h.members.mem_iff.1 (List.mem_append_left _ hmem)

/-- Tags are related if they are linked by a frame. -/
theorem mem_related_iff (h : Associated T r r₀ ps r' res) (hi : i ∈ ps)
    (hrole : (r.tag i).hasBlockRole = true) (hfresh : (r₀.tag i).related = []) :
    j ∈ (r'.tag i).related ↔ ∃ f ∈ res.frames, f.Links i j := by
  constructor
  · intro hj
    rcases h.mem_frame_or_orphan hi hrole with ⟨f, hf, hif⟩ | ho
    · exact ⟨f, hf, (h.frame_settled hf).links_of_mem_related hif hj⟩
    · -- An orphan is related to what it was related to before, which is nothing.
      have hnone : (r'.tag i).related = [] := by
        rw [(h.orphans i ho).written]
        exact hfresh
      rw [hnone] at hj
      cases hj
  · rintro ⟨f, hf, hij⟩
    exact (h.frame_settled hf).mem_related hij

/-- A tag was paired if it is in a closed frame, or if it is a continuation in another frame. -/
theorem isSuccess_iff (h : Associated T r r₀ ps r' res) (hi : i ∈ ps)
    (hrole : (r.tag i).hasBlockRole = true) :
    (r'.tag i).isSuccess = true ↔ (∃ f ∈ res.closed, i ∈ f.members) ∨
      (r.tag i).isContinuation = true ∧ ∃ f ∈ res.unclosed, i ∈ f.members := by
  constructor
  · intro hsuccess
    rcases h.mem_frame_or_orphan hi hrole with ⟨f, hf, hif⟩ | ho
    · rcases List.mem_append.1 hf with hf | hf
      · exact .inr ⟨((h.unclosed f hf).isSuccess_iff hif).1 hsuccess, f, hf, hif⟩
      · exact .inl ⟨f, hf, hif⟩
    · have hfailed : (r'.tag i).isSuccess = false := by
        rw [(h.orphans i ho).written]
        rfl
      rw [hfailed] at hsuccess
      cases hsuccess
  · rintro (⟨f, hf, hif⟩ | ⟨hc, f, hf, hif⟩)
    · exact (h.closed f hf).isSuccess hif
    · exact ((h.unclosed f hf).isSuccess_iff hif).2 hc

end Associated

/-! ## All tags -/

/-- Every block tag among the given ones is in one place of the result, and its fields tell which.
Here `r` holds the tags as they were given, and `r'` the tags as they are paired. -/
structure Accounted (r : Roster) (is : List TagId) (r' : Roster) (res : Result) : Prop where
  /-- A block tag is listed once, and nothing else is listed. -/
  once : ∀ i, (res.frames.flatMap (·.members) ++ res.orphans).count i =
    if i ∈ is ∧ (r.tag i).hasBlockRole = true then 1 else 0
  related_symm : ∀ i ∈ is, ∀ j ∈ is, (r.tag i).hasBlockRole = true → (r.tag j).hasBlockRole = true →
    (i ∈ (r'.tag j).related ↔ j ∈ (r'.tag i).related)
  /-- Related tags are among the given ones, have one block id, and one of them opens the block. -/
  related_block : ∀ i ∈ is, (r.tag i).hasBlockRole = true → ∀ j ∈ (r'.tag i).related,
    (j ∈ is ∧ (r.tag j).hasBlockRole = true) ∧
      (∃ id, (r'.tag i).blockId = some id ∧ (r'.tag j).blockId = some id) ∧
      (r'.tag i).isStart = !(r'.tag j).isStart
  isSuccess_iff : ∀ i ∈ is, (r.tag i).hasBlockRole = true →
    ((r'.tag i).isSuccess = true ↔ (∃ f ∈ res.closed, i ∈ f.members) ∨
      (r.tag i).isContinuation = true ∧ ∃ f ∈ res.unclosed, i ∈ f.members)
  orphan : ∀ i ∈ res.orphans, (r'.tag i).blockId = none ∧ (r'.tag i).related = []

/-- A pairing accounts for the tags that are given, whatever was left on them before. -/
theorem accounted_associate (T : TagTables) (ids : IdSource) (hn : is.Nodup)
    (hlt : ∀ i ∈ is, i < r.length) (hr : ∀ i ∈ is, (r.tag i).SingleRole) :
    Accounted r is (associate T ids r is).1 (associate T ids r is).2.1 := by
  have h := associated_of_singleRole (T := T) ids hn hlt hr
  have hmem {i : TagId} : i ∈ r.inDocumentOrder is ↔ i ∈ is := Roster.mem_inDocumentOrder
  have hfresh {i : TagId} (hi : i ∈ is) (hrole : (r.tag i).hasBlockRole = true) :
      (fresh r is).tag i = (r.tag i).mapTag Tag.reset :=
    tag_fresh hn hi (hlt i hi) hrole
  have hrelated {i j : TagId} (hi : i ∈ is) (hrole : (r.tag i).hasBlockRole = true) :
      j ∈ ((associate T ids r is).1.tag i).related ↔
        ∃ f ∈ (associate T ids r is).2.1.frames, f.Links i j := by
    refine h.mem_related_iff (hmem.2 hi) hrole ?_
    rw [hfresh hi hrole]
    rfl
  refine {
    once := ?once
    related_symm := ?related_symm
    related_block := ?related_block
    isSuccess_iff := fun i hi hrole => h.isSuccess_iff (hmem.2 hi) hrole
    orphan := ?orphan }
  case once =>
    -- The places list the tags that take part, and each of these was given once.
    intro i
    have hnodup := (Roster.nodup_inDocumentOrder (r := r) hn).filter fun i => (r.tag i).hasBlockRole
    calc
      List.count i ((associate T ids r is).2.1.frames.flatMap (·.members) ++
            (associate T ids r is).2.1.orphans)
          = ((r.inDocumentOrder is).filter fun i => (r.tag i).hasBlockRole).count i :=
            h.members.count_eq i
      _ = if i ∈ is ∧ (r.tag i).hasBlockRole = true then 1 else 0 := by
            simp only [hnodup.count, List.mem_filter, hmem]
  case related_symm =>
    intro i hi j hj hrolei hrolej
    rw [hrelated hj hrolej, hrelated hi hrolei]
    exact ⟨fun ⟨f, hf, hl⟩ => ⟨f, hf, hl.symm⟩, fun ⟨f, hf, hl⟩ => ⟨f, hf, hl.symm⟩⟩
  case related_block =>
    -- Related tags are tags of one frame, and so have its id.
    intro i hi hrole j hj
    rcases (hrelated hi hrole).1 hj with ⟨f, hf, hlinks⟩
    have hsettled := h.frame_settled hf
    have hmemi : i ∈ f.members := hsettled.mem_members hlinks
    have hmemj : j ∈ f.members := hsettled.mem_members hlinks.symm
    have hgiven := h.mem_of_mem_members hf hmemj
    refine ⟨⟨hmem.1 hgiven.1, hgiven.2⟩, ⟨f.id, hsettled.blockId_eq hmemi,
      hsettled.blockId_eq hmemj⟩, ?_⟩
    rw [h.agree.isStart i, h.agree.isStart j]
    exact hsettled.isStart_eq_not hlinks
  case orphan =>
    intro i hi
    have hpart := h.members.mem_iff.1 (List.mem_append_right _ hi)
    have hgiven : i ∈ r.inDocumentOrder is ∧ (r.tag i).hasBlockRole = true := by simpa using hpart
    rw [(h.orphans i hi).written, hfresh (hmem.1 hgiven.1) hgiven.2]
    exact ⟨rfl, rfl⟩

/-- The tags that a pairing is asked for are different, and each has one role at most. -/
structure Call.Valid (c : Call) : Prop where
  nodup : c.tags.Nodup
  lt : ∀ i ∈ c.tags, i < c.roster.length
  singleRole : ∀ i ∈ c.tags, (c.roster.tag i).SingleRole

/-- Pairings that share a source of block ids account for the tags that each is given, whatever was
left on them before, and give no block id twice. -/
theorem associateAll_accounted (ids : IdSource) (cs : List Call) (hc : ∀ c ∈ cs, c.Valid) :
    List.Forall₂ (fun c out => Accounted c.roster c.tags out.1 out.2) cs (associateAll ids cs) ∧
      (blockIds (associateAll ids cs)).Nodup := by
  refine ⟨?_, nodup_ids_associateAll ids cs⟩
  induction cs generalizing ids with
  | nil => exact .nil
  | cons c cs ih =>
      have hvalid := hc c List.mem_cons_self
      rw [associateAll_cons]
      refine .cons ?_ (ih _ fun c' hc' => hc c' (List.mem_cons_of_mem _ hc'))
      exact accounted_associate c.tables ids hvalid.nodup hvalid.lt hvalid.singleRole

/-- Blocks that cross are paired, and then some of their tags once more, as the first pairing left
them. -/
def crossingTwice : List Call :=
  [⟨.standard, crossing, [0, 1, 2, 3, 4, 5]⟩,
    ⟨.standard, (associate .standard {} crossing [0, 1, 2, 3, 4, 5]).1, [0, 2, 4]⟩]

theorem associateAll_accounted_crossingTwice :
    (∀ c ∈ crossingTwice, c.Valid) ∧
      List.Forall₂ (fun c out => Accounted c.roster c.tags out.1 out.2) crossingTwice
        (associateAll {} crossingTwice) ∧
      (blockIds (associateAll {} crossingTwice)).Nodup := by
  have hrole (i : TagId) : (crossing.tag i).SingleRole := by
    by_cases hi : i < crossing.length
    · have hmem : crossing.tag i ∈ crossing := Roster.tag_mem hi
      rcases List.mem_map.1 hmem with ⟨raw, _, htag⟩
      rw [← htag]
      exact Tag.singleRole_read .standard ⟨nofun, nofun⟩
    · rw [Roster.tag_of_length_le (Nat.le_of_not_lt hi)]
      exact ⟨nofun, nofun⟩
  have hagree := agree_associate .standard {} crossing [0, 1, 2, 3, 4, 5]
  have hvalid : ∀ c ∈ crossingTwice, c.Valid := by
    intro c hc
    rcases List.mem_cons.1 hc with rfl | hc
    · exact ⟨by decide, by decide, fun i _ => hrole i⟩
    · rw [List.mem_singleton.1 hc]
      refine ⟨by decide, ?_, fun i _ => hagree.singleRole (hrole i)⟩
      rw [hagree.length_eq]
      decide
  exact ⟨hvalid, associateAll_accounted {} crossingTwice hvalid⟩

end Pairing
end LiquidMarkdown
