import LiquidMarkdown.Proofs.Pairing.Association

/-!
# Pairing is bracket matching

Pairing goes through the tags once and keeps the open frames by type.  What it comes to can be said
without any frame: for each block type the tags are brackets.  This file defines:

* `Roster.Joined`, `Roster.Paired`, `Tag.FailedWith` — how a pairing came out for a tag;
* `Roster.Continues` — a continuation belongs to the last opening tag that is still open;
* `Bracketed` — the tags are paired as brackets are matched, type by type;
* `associate_bracketed` — pairing the tags of a document pairs them so.
-/

namespace LiquidMarkdown

/-! ## How a pairing came out -/

/-- The tag has failed for the given fault. -/
def Tag.FailedWith (t : Tag) (f : Pairing.Fault) : Prop :=
  t.outcome = .failed ∧ t.error = some f.message

namespace Roster

/-- The tag `k` has the block id of the tag `i`, which names it. -/
def Joined (r : Roster) (i k : TagId) : Prop :=
  (∃ id, (r.tag i).blockId = some id ∧ (r.tag k).blockId = some id) ∧ k ∈ (r.tag i).related

/-- The tags have the same block id and name each other. -/
def Paired (r : Roster) (i j : TagId) : Prop :=
  r.Joined i j ∧ i ∈ (r.tag j).related

/-- The tag `i` is the last tag before `k` that opens a block of type `X` and is not closed
before `k`. -/
def Continues (r : Roster) (X : Text) (ps : List TagId) (k i : TagId) : Prop :=
  ∃ pre post, ps = pre ++ k :: post ∧ (r.brackets X).LatestOpen pre i

/-- A continuation belongs to the last opening tag, of the type that it may join, that is still
open. -/
theorem host_iff_continues {r : Roster} {T : TagTables} {ps : List TagId} {k i : TagId}
    (hn : ps.Nodup) (hs : (r.tag k).isStart = false) (he : (r.tag k).isEnd = false)
    (hc : (r.tag k).isContinuation = true) :
    r.Host T ps k i ↔ ∃ X, T.parent? (r.tag k).name = some X ∧ r.Continues X ps k i := by
  have hjoins : (r.tag k).joins? T = T.parent? (r.tag k).name :=
    Tag.joins?_of_isContinuation hs he hc
  have hpre {pre post : List TagId} (hps : ps = pre ++ k :: post) : pre.Nodup := by
    rw [hps] at hn
    exact (List.nodup_append.1 hn).1
  constructor
  · rintro ⟨pre, post, hps, hhost⟩
    rw [host?, hjoins] at hhost
    rcases Option.bind_eq_some_iff.1 hhost with ⟨X, hX, hhead⟩
    exact ⟨X, hX, pre, post, hps, (Brackets.head?_opened_iff (hpre hps)).1 hhead⟩
  · rintro ⟨X, hX, pre, post, hps, hlatest⟩
    refine ⟨pre, post, hps, ?_⟩
    rw [host?, hjoins, hX, Option.bind_some]
    exact (Brackets.head?_opened_iff (hpre hps)).2 hlatest

end Roster

namespace Roster

/-- The closing tags that belong to an opening tag are those that match it. -/
theorem isEnd_and_host_iff {r : Roster} {T : TagTables} {ps : List TagId} {i j : TagId}
    (hp : ∀ k ∈ ps, (r.tag k).Prepared T) :
    (r.tag j).isEnd = true ∧ r.Host T ps j i ↔ (r.brackets (r.tag i).name).Matches ps i j := by
  constructor
  · rintro ⟨he, hhost⟩
    rcases (hp j hhost.mem.1).of_isEnd he with ⟨hs, _⟩
    have hmatches := (host_iff_matches hs he).1 hhost
    rwa [(opens_iff.1 hmatches.opens).2]
  · intro hmatches
    rcases closes_iff.1 hmatches.closes with ⟨hs, he, hX⟩
    refine ⟨he, (host_iff_matches hs he).2 ?_⟩
    rwa [hX]

end Roster

namespace Pairing

variable {T : TagTables} {r r₀ r' : Roster} {ps : List TagId} {res : Result} {i k : TagId}

namespace Associated

/-- A tag that an opening tag names belongs to it. -/
theorem host_of_joined (h : Associated T r r₀ ps r' res) (hi : i ∈ ps)
    (hs : (r.tag i).isStart = true) (hk : r'.Joined i k) : r.Host T ps k i := by
  rcases h.exists_frame hi hs with ⟨f, rfl, hf⟩
  have hsettled := Frame.settled hf
  have hrelated := hk.2
  rw [hsettled.related] at hrelated
  exact (hsettled.host k).1 hrelated

/-- A tag that belongs to an opening tag is paired with it. -/
theorem paired_of_host (h : Associated T r r₀ ps r' res) (hk : r.Host T ps k i) :
    r'.Paired i k := by
  rcases h.exists_frame hk.mem.2 hk.isStart with ⟨f, rfl, hf⟩
  have hsettled := Frame.settled hf
  have hother := (hsettled.host k).2 hk
  refine ⟨⟨⟨f.id, hsettled.blockId, ?_⟩, ?_⟩, ?_⟩
  · rw [hsettled.other k hother]
    rfl
  · rwa [hsettled.related]
  · rw [hsettled.other k hother]
    exact List.mem_singleton_self _

/-- An opening tag is paired with the tags that belong to it, and with no others. -/
theorem paired_iff_host (h : Associated T r r₀ ps r' res) (hi : i ∈ ps)
    (hs : (r.tag i).isStart = true) : r'.Paired i k ↔ r.Host T ps k i :=
  ⟨fun hik => h.host_of_joined hi hs hik.1, h.paired_of_host⟩

/-- An opening tag is paired with one closing tag at most. -/
theorem eq_of_paired (h : Associated T r r₀ ps r' res) (hi : i ∈ ps)
    (hs : (r.tag i).isStart = true) {j : TagId} (hj : r'.Paired i j) (hk : r'.Paired i k)
    (hje : (r'.tag j).isEnd = true) (hke : (r'.tag k).isEnd = true) : j = k := by
  rw [h.paired_iff_host hi hs] at hj hk
  rw [h.agree.isEnd] at hje hke
  rcases h.exists_frame hi hs with ⟨f, rfl, hf⟩
  obtain ⟨conts, stop, hc⟩ : ∃ conts stop, f.Collects T r ps conts stop := by
    rcases hf with ⟨conts, hc, _⟩ | ⟨conts, stop, hc, _⟩
    · exact ⟨conts, none, hc⟩
    · exact ⟨conts, some stop, hc⟩
  -- A frame has one closing tag at most, and its other tags are continuations.
  have hstop {x : TagId} (hx : r.Host T ps x f.start) (he : (r.tag x).isEnd = true) :
      stop = some x := by
    rcases List.mem_append.1 ((hc.host x).2 hx) with hmem | hmem
    · rw [hc.conts_isEnd x hmem] at he
      cases he
    · exact Option.mem_toList.1 hmem
  have hjk := (hstop hj hje).symm.trans (hstop hk hke)
  exact Option.some.inj hjk

/-- A tag that opens no block has failed if it belongs to no opening tag, and only for that. -/
theorem failedWith_iff (h : Associated T r r₀ ps r' res) (hk : k ∈ ps)
    (hs : (r.tag k).isStart = false) (hrole : (r.tag k).hasBlockRole = true) {f : Fault} :
    (r'.tag k).FailedWith f ↔
      f.message = ((r.tag k).fault T).message ∧ ¬ ∃ i, r.Host T ps k i := by
  -- A tag in a frame was read, and one without a frame is an orphan.
  rcases h.settled_or_orphaned hk hs hrole with ⟨g, hsettled, hother⟩ | ho
  · constructor
    · rintro ⟨hfailed, _⟩
      rw [hsettled.other k hother] at hfailed
      cases hfailed
    · rintro ⟨_, hnone⟩
      exact absurd ⟨g.start, (hsettled.host k).1 hother⟩ hnone
  · have herror : (r'.tag k).error = some ((r.tag k).fault T).message := by
      rw [ho.written]
      rfl
    constructor
    · rintro ⟨_, hmessage⟩
      rw [herror, Option.some.injEq] at hmessage
      exact ⟨hmessage.symm, fun ⟨i, hi⟩ => ho.host i hi⟩
    · rintro ⟨hmessage, _⟩
      refine ⟨?_, by rw [herror, hmessage]⟩
      rw [ho.written]
      rfl

/-- An opening tag has failed if no closing tag belongs to it. -/
theorem failedWith_unclosed_iff (h : Associated T r r₀ ps r' res) (hi : i ∈ ps)
    (hs : (r.tag i).isStart = true) :
    (r'.tag i).FailedWith (.unclosed (r.tag i).name) ↔
      ¬ ∃ j, (r.tag j).isEnd = true ∧ r.Host T ps j i := by
  rcases h.exists_frame hi hs with ⟨f, rfl, hf⟩
  have hname : (r.tag f.start).name = f.blockType :=
    (Roster.opens_iff.1 (Frame.settled hf).opens).2
  -- A frame that was left open holds no closing tag, a closed one does.
  rcases hf with ⟨conts, hc, hstart, _⟩ | ⟨conts, j, hc, hstart, _⟩
  · constructor
    · rintro _ ⟨j, he, hj⟩
      have hj' := (hc.host j).2 hj
      rw [Option.toList_none, List.append_nil] at hj'
      rw [hc.conts_isEnd j hj'] at he
      cases he
    · intro _
      rw [hstart, hname]
      exact ⟨rfl, rfl⟩
  · constructor
    · rintro ⟨hfailed, _⟩
      rw [hstart] at hfailed
      cases hfailed
    · intro hnone
      refine absurd ⟨j, hc.stop_isEnd j rfl, (hc.host j).1 ?_⟩ hnone
      exact List.mem_append_right _ List.mem_cons_self

end Associated

/-- The wordings of the faults of a continuation differ in their first letter. -/
theorem message_unknown_ne_orphaned (name name' : Text) :
    (Fault.unknownContinuation name).message ≠ (Fault.orphanedContinuation name').message := by
  have hunknown : (Fault.unknownContinuation name).message.head? = some 'U' := by
    change (("Unknown continuation tag type: '" : Text) ++ name ++ "'").head? = some 'U'
    have hliteral : ("Unknown continuation tag type: '" : Text).head? = some 'U' := by decide
    rw [List.head?_append, List.head?_append, hliteral]
    rfl
  have horphaned : (Fault.orphanedContinuation name').message.head? = some 'C' := by
    change (("Continuation tag '" : Text) ++ name' ++ "' without a matching block start").head? =
      some 'C'
    have hliteral : ("Continuation tag '" : Text).head? = some 'C' := by decide
    rw [List.head?_append, List.head?_append, hliteral]
    rfl
  intro h
  rw [h, horphaned] at hunknown
  exact absurd hunknown (by decide)

namespace Associated

/-- A closing tag has failed as an orphan if no opening tag matches it. -/
theorem failedWith_orphanedEnd_iff (h : Associated T r r₀ ps r' res) (hp : (r.tag k).Prepared T)
    (hk : k ∈ ps) (he : (r.tag k).isEnd = true) :
    (r'.tag k).FailedWith (.orphanedEnd (r.tag k).name) ↔
      ¬ ∃ i, (r.brackets (Tag.blockOfEnd (r.tag k).name)).Matches ps i k := by
  rcases hp.of_isEnd he with ⟨hs, _⟩
  rw [h.failedWith_iff hk hs (Tag.hasBlockRole_of_isEnd he), Tag.fault_of_isEnd he]
  simp only [Roster.host_iff_matches hs he, true_and]

/-- A continuation that may join a block type has failed as an orphan if no opening tag of this type
is open. -/
theorem failedWith_orphanedContinuation_iff (h : Associated T r r₀ ps r' res) (hn : ps.Nodup)
    (hp : (r.tag k).Prepared T) (hk : k ∈ ps) (hc : (r.tag k).isContinuation = true) :
    (r'.tag k).FailedWith (.orphanedContinuation (r.tag k).name) ↔
      ∃ X, T.parent? (r.tag k).name = some X ∧ ¬ ∃ i, r.Continues X ps k i := by
  rcases hp.of_isContinuation hc with ⟨hs, he⟩
  rw [h.failedWith_iff hk hs (Tag.hasBlockRole_of_isContinuation hc)]
  simp only [Roster.host_iff_continues hn hs he hc]
  cases hX : T.parent? (r.tag k).name with
  | none =>
      -- The fault is the other one, and has another wording.
      rw [Tag.fault_of_parent?_eq_none he hX]
      constructor
      · rintro ⟨hmessage, _⟩
        exact absurd hmessage.symm (message_unknown_ne_orphaned _ _)
      · rintro ⟨X, hsome, _⟩
        cases hsome
  | some X =>
      rw [Tag.fault_of_parent?_eq_some he hX]
      constructor
      · rintro ⟨_, hnone⟩
        refine ⟨X, rfl, ?_⟩
        rintro ⟨i, hi⟩
        exact hnone ⟨i, X, rfl, hi⟩
      · rintro ⟨Y, hY, hnone⟩
        cases hY
        refine ⟨rfl, ?_⟩
        rintro ⟨i, Z, hZ, hi⟩
        cases hZ
        exact hnone ⟨i, hi⟩

/-- A continuation has failed as unknown if it may join no block type. -/
theorem failedWith_unknownContinuation_iff (h : Associated T r r₀ ps r' res) (hn : ps.Nodup)
    (hp : (r.tag k).Prepared T) (hk : k ∈ ps) (hc : (r.tag k).isContinuation = true) :
    (r'.tag k).FailedWith (.unknownContinuation (r.tag k).name) ↔
      T.parent? (r.tag k).name = none := by
  rcases hp.of_isContinuation hc with ⟨hs, he⟩
  rw [h.failedWith_iff hk hs (Tag.hasBlockRole_of_isContinuation hc)]
  simp only [Roster.host_iff_continues hn hs he hc]
  cases hX : T.parent? (r.tag k).name with
  | none =>
      rw [Tag.fault_of_parent?_eq_none he hX]
      constructor
      · intro _
        rfl
      · intro _
        refine ⟨rfl, ?_⟩
        rintro ⟨i, X, hsome, _⟩
        cases hsome
  | some X =>
      rw [Tag.fault_of_parent?_eq_some he hX]
      constructor
      · rintro ⟨hmessage, _⟩
        exact absurd hmessage (message_unknown_ne_orphaned _ _)
      · intro hnone
        cases hnone

end Associated

/-! ## The tags as brackets -/

/-- The tags `ps` are paired as brackets are matched, type by type.  Here `r` holds the roles of the
tags, and `r'` the tags as they are paired. -/
structure Bracketed (T : TagTables) (r : Roster) (ps : List TagId) (r' : Roster) : Prop where
  paired : ∀ i ∈ ps, ∀ j ∈ ps, (r.tag i).isStart = true → (r.tag j).isEnd = true →
    (r'.Paired i j ↔ (r.brackets (Tag.blockOfEnd (r.tag j).name)).Matches ps i j)
  orphanedEnd : ∀ j ∈ ps, (r.tag j).isEnd = true →
    ((r'.tag j).FailedWith (.orphanedEnd (r.tag j).name) ↔
      ¬ ∃ i, (r.brackets (Tag.blockOfEnd (r.tag j).name)).Matches ps i j)
  unclosed : ∀ i ∈ ps, (r.tag i).isStart = true →
    ((r'.tag i).FailedWith (.unclosed (r.tag i).name) ↔
      ¬ ∃ j, (r.brackets (r.tag i).name).Matches ps i j)
  joined : ∀ i ∈ ps, ∀ k ∈ ps, (r.tag i).isStart = true → (r.tag k).isContinuation = true →
    (r'.Joined i k ↔ ∃ X, T.parent? (r.tag k).name = some X ∧ r.Continues X ps k i)
  orphanedContinuation : ∀ k ∈ ps, (r.tag k).isContinuation = true →
    ((r'.tag k).FailedWith (.orphanedContinuation (r.tag k).name) ↔
      ∃ X, T.parent? (r.tag k).name = some X ∧ ¬ ∃ i, r.Continues X ps k i)
  unknownContinuation : ∀ k ∈ ps, (r.tag k).isContinuation = true →
    ((r'.tag k).FailedWith (.unknownContinuation (r.tag k).name) ↔
      T.parent? (r.tag k).name = none)

/-- Pairing the tags of a document pairs them as brackets are matched, type by type. -/
theorem associate_bracketed (T : TagTables) (ids : IdSource) (r : Roster) (is : List TagId)
    (hn : is.Nodup) (hlt : ∀ i ∈ is, i < r.length) (hp : ∀ i ∈ is, (r.tag i).Prepared T) :
    Bracketed T r (r.inDocumentOrder is) (associate T ids r is).1 := by
  have h := associated_associate ids hn hlt hp
  have hn' : (r.inDocumentOrder is).Nodup := Roster.nodup_inDocumentOrder hn
  have hprepared (i : TagId) (hi : i ∈ r.inDocumentOrder is) : (r.tag i).Prepared T :=
    hp i (Roster.mem_inDocumentOrder.1 hi)
  refine {
    paired := ?paired
    orphanedEnd := ?orphanedEnd
    unclosed := ?unclosed
    joined := ?joined
    orphanedContinuation := ?orphanedContinuation
    unknownContinuation := ?unknownContinuation }
  case paired =>
    intro i hi j hj hs he
    rcases (hprepared j hj).of_isEnd he with ⟨hsj, _⟩
    rw [h.paired_iff_host hi hs]
    exact Roster.host_iff_matches hsj he
  case orphanedEnd =>
    intro j hj he
    exact h.failedWith_orphanedEnd_iff (hprepared j hj) hj he
  case unclosed =>
    intro i hi hs
    rw [h.failedWith_unclosed_iff hi hs]
    simp only [Roster.isEnd_and_host_iff hprepared]
  case joined =>
    intro i hi k hk hs hc
    rcases (hprepared k hk).of_isContinuation hc with ⟨hsk, hek⟩
    rw [← Roster.host_iff_continues hn' hsk hek hc]
    exact ⟨h.host_of_joined hi hs, fun hik => (h.paired_of_host hik).1⟩
  case orphanedContinuation =>
    intro k hk hc
    exact h.failedWith_orphanedContinuation_iff hn' (hprepared k hk) hk hc
  case unknownContinuation =>
    intro k hk hc
    exact h.failedWith_unknownContinuation_iff hn' (hprepared k hk) hk hc

/-- Blocks of two types that cross, a continuation between them, and a tag that closes nothing. -/
def crossing : Roster :=
  ["{% if a %}", "{% for b in c %}", "{% else %}", "{% endif %}", "{% endfor %}",
    "{% endcase %}"].map
    fun raw => { toTag := ({ raw := raw } : Tag).read .standard }

theorem associate_bracketed_crossing :
    ([0, 1, 2, 3, 4, 5] : List TagId).Nodup ∧ (∀ i ∈ [0, 1, 2, 3, 4, 5], i < crossing.length) ∧
      (∀ i ∈ [0, 1, 2, 3, 4, 5], (crossing.tag i).Prepared .standard) ∧
      Bracketed .standard crossing (crossing.inDocumentOrder [0, 1, 2, 3, 4, 5])
        (associate .standard {} crossing [0, 1, 2, 3, 4, 5]).1 ∧
      (associate .standard {} crossing [0, 1, 2, 3, 4, 5]).1.Paired 0 3 := by
  have hnodup : ([0, 1, 2, 3, 4, 5] : List TagId).Nodup := by decide
  have hlt : ∀ i ∈ [0, 1, 2, 3, 4, 5], i < crossing.length := by decide
  have hprepared : ∀ i ∈ [0, 1, 2, 3, 4, 5], (crossing.tag i).Prepared .standard := by
    intro i hi
    have hmem : crossing.tag i ∈ crossing := by
      rw [Roster.tag, List.getD_eq_getElem?_getD, List.getElem?_eq_getElem (hlt i hi)]
      exact List.getElem_mem _
    rcases List.mem_map.1 hmem with ⟨raw, _, htag⟩
    rw [← htag]
    exact Tag.prepared_read .standard fun _ => rfl
  have hbracketed :=
    associate_bracketed .standard {} crossing [0, 1, 2, 3, 4, 5] hnodup hlt hprepared
  have hmatches : (crossing.brackets (Tag.blockOfEnd (crossing.tag 3).name)).Matches
      (crossing.inDocumentOrder [0, 1, 2, 3, 4, 5]) 0 3 :=
    ⟨[], [1, 2], [4, 5], by decide, by decide, by decide, by decide⟩
  refine ⟨hnodup, hlt, hprepared, hbracketed, ?_⟩
  exact (hbracketed.paired 0 (by decide) 3 (by decide) (by decide) (by decide)).2 hmatches

end Pairing
end LiquidMarkdown
