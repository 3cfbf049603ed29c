import LiquidMarkdown.Annotation.Annotate
import LiquidMarkdown.Proofs.Pairing.Accounting
import LiquidMarkdown.Proofs.Pairing.Check
import LiquidMarkdown.Proofs.Pairing.Mapping

/-!
# Pairing once more

A pairing wipes out what an earlier one left on the tags that take part, and leaves the other tags
alone.  So the same tags come out in the same way however often they are paired.  This file defines:

* `State.Spares` — the tags that take no part are left alone, `State.Spares.step`;
* `tag_checked_of_bystander` — pairing and checking do no more to such a tag than to clear its
  error;
* `overlooked_clearError` — pairing overlooks that errors were cleared;
* `checked_run_congr` — tags that agree, and whose bystanders differ in cleared errors only, come
  out the same.
-/

namespace LiquidMarkdown

/-! ## Rosters -/

namespace Roster

variable {r r' : Roster}

/-- A roster is given by its tags. -/
theorem ext_tag (hlen : r.length = r'.length) (h : ∀ i, r.tag i = r'.tag i) : r = r' := by
  apply List.ext_getElem hlen
  intro i hi hi'
  rw [getElem_eq_tag hi, getElem_eq_tag hi', h]

theorem lt_length_of_hasBlockRole {i : TagId} (h : (r.tag i).hasBlockRole = true) :
    i < r.length := by
  apply Nat.lt_of_not_le
  intro hle
  rw [tag_of_length_le hle] at h
  cases h

theorem Agree.of_tag (hlen : r.length = r'.length)
    (h : ∀ i, (r.tag i).toTag.reset = (r'.tag i).toTag.reset)
    (hposition : ∀ i, (r.tag i).position = (r'.tag i).position) : r.Agree r' := by
  refine List.ext_getElem (by simpa using hlen) fun i hi hi' => ?_
  rw [List.length_map] at hi hi'
  rw [List.getElem_map, List.getElem_map, getElem_eq_tag hi, getElem_eq_tag hi', PlacedTag.mapTag,
    PlacedTag.mapTag, h, hposition]

/-- What is done to each of the tags is done to all. -/
theorem updateAll_range (r : Roster) (f : Tag → Tag) :
    r.updateAll (List.range r.length) f = r.map (PlacedTag.mapTag f) := by
  have hlen (is : List TagId) (s : Roster) : (s.updateAll is f).length = s.length := by
    induction is generalizing s with
    | nil => rfl
    | cons i is ih => exact (ih (s.update i f)).trans (s.length_update i f)
  refine List.ext_getElem (by rw [hlen, List.length_map]) fun i hi hi' => ?_
  rw [List.length_map] at hi'
  rw [List.getElem_map, getElem_eq_tag hi, getElem_eq_tag hi',
    tag_updateAll_of_mem List.nodup_range (List.mem_range.2 hi') hi']

theorem Agree.map_position (h : r.Agree r') : r.map (·.position) = r'.map (·.position) := by
  have hposition := congrArg (List.map fun t : PlacedTag => t.position) h
  simpa [Function.comp_def, PlacedTag.mapTag] using hposition

theorem Agree.inDocumentOrder (h : r.Agree r') (is : List TagId) :
    r.inDocumentOrder is = r'.inDocumentOrder is := by
  have hoffset (i : TagId) : (r.tag i).offset? = (r'.tag i).offset? :=
    h.field PlacedTag.offset? (fun _ => rfl) i
  simp only [Roster.inDocumentOrder, allPlaced, hoffset]
  rfl

theorem Agree.participants (h : r.Agree r') (is : List TagId) :
    Pairing.participants r is = Pairing.participants r' is := by
  simp only [Pairing.participants, h.inDocumentOrder, h.hasBlockRole]

end Roster

namespace Pairing

variable {T : TagTables} {r r' : Roster} {i : TagId}

/-! ## Bystanders -/

/-- A tag that takes no part is none that does. -/
theorem ne_of_bystander {j : TagId} (hj : (r.tag j).hasBlockRole = true)
    (hi : (r.tag i).hasBlockRole = false) : j ≠ i := by
  rintro rfl
  rw [hj] at hi
  cases hi

theorem Frame.tag_relate_of_bystander {f : Frame} (hs : (r.tag f.start).isStart = true)
    (hi : (r.tag i).hasBlockRole = false) : (f.relate r).tag i = r.tag i := by
  have hstart : f.start ≠ i := ne_of_bystander (Tag.hasBlockRole_of_isStart hs) hi
  simp only [Tag.hasBlockRole, Bool.or_eq_false_iff] at hi
  -- A frame picks its other tags by their roles.
  have hothers : i ∉ f.continuations r ++ (f.end? r).toList := by
    intro hmem
    rcases List.mem_append.1 hmem with hmem | hmem
    · have hcontinues := (List.mem_filter.1 hmem).2
      rw [hi.2] at hcontinues
      cases hcontinues
    · have hends := List.find?_some (Option.mem_toList.1 hmem)
      rw [hi.1.2] at hends
      cases hends
  rw [Frame.relate_eq, Roster.tag_updateAll_of_notMem _ hothers, Roster.tag_update_of_ne _ hstart]

/-- The tags that take no part are as they were, and every open frame begins with an opening tag. -/
structure State.Spares (r : Roster) (s : State) : Prop where
  agree : s.roster.Agree r
  spared : ∀ i, (r.tag i).hasBlockRole = false → s.roster.tag i = r.tag i
  unique : s.opened.Unique
  starts : ∀ f ∈ s.opened.all, (r.tag f.start).isStart = true

namespace State.Spares

variable {s : State}

theorem tag_update (h : s.Spares r) {j : TagId} (hj : (s.roster.tag j).hasBlockRole = true)
    (f : Tag → Tag) (hi : (r.tag i).hasBlockRole = false) :
    (s.roster.update j f).tag i = r.tag i := by
  rw [h.agree.hasBlockRole] at hj
  rw [Roster.tag_update_of_ne _ (ne_of_bystander hj hi), h.spared i hi]

/-- The frames that stay open where a type is set are those that are set, and some that were open.
-/
theorem starts_set (h : s.Spares r) (X : Text) {fs : List Frame}
    (hfs : ∀ f ∈ fs, (r.tag f.start).isStart = true) :
    ∀ f ∈ (s.opened.set X fs).all, (r.tag f.start).isStart = true := by
  intro f hf
  rcases List.mem_append.1 ((OpenFrames.all_set_perm h.unique X fs).mem_iff.1 hf) with hf | hf
  · exact hfs f hf
  · exact h.starts f ((OpenFrames.all_perm h.unique X).mem_iff.2 (List.mem_append_right _ hf))

theorem starts_ofType (h : s.Spares r) {X : Text} {fs : List Frame} (hX : s.opened.ofType X = fs) :
    ∀ f ∈ fs, (r.tag f.start).isStart = true := by
  intro f hf
  rw [← hX] at hf
  exact h.starts f ((OpenFrames.all_perm h.unique X).mem_iff.2 (List.mem_append_left _ hf))

/-- One tag more leaves the tags that take no part alone. -/
theorem step (h : s.Spares r) (T : TagTables) (j : TagId) : (s.step T j).Spares r := by
  have hagree : (s.step T j).roster.Agree r := (agree_step T s j).trans h.agree
  have hstep := stepped_step T s j
  generalize s.step T j = s' at hstep hagree
  -- Whatever a step does, it writes to tags that take part only: to this one, and to those of the
  -- frame that it closes.
  cases hstep with
  | opens hs =>
      have hrole : (s.roster.tag j).hasBlockRole = true := Tag.hasBlockRole_of_isStart hs
      refine ⟨hagree, fun i hi => h.tag_update hrole _ hi, OpenFrames.unique_set h.unique _ _,
        h.starts_set _ ?_⟩
      intro f hf
      rcases List.mem_cons.1 hf with rfl | hf
      · rw [← h.agree.isStart]
        exact hs
      · exact h.starts_ofType rfl f hf
  | @closes X f fs hs he hX hf =>
      have hrole : (s.roster.tag j).hasBlockRole = true := Tag.hasBlockRole_of_isEnd he
      have hstarts := h.starts_ofType hf
      have hstart := hstarts f List.mem_cons_self
      refine ⟨hagree, ?_, OpenFrames.unique_set h.unique _ _,
        h.starts_set _ fun g hg => hstarts g (List.mem_cons_of_mem _ hg)⟩
      intro i hi
      have hjoin : (joinFrame s.roster j f).Agree r := (agree_joinFrame _ _ _).trans h.agree
      have hrelate : ((f.extend j).relate (joinFrame s.roster j f)).tag i =
          (joinFrame s.roster j f).tag i := by
        refine Frame.tag_relate_of_bystander ?_ ?_
        · rw [hjoin.isStart]
          exact hstart
        · rw [hjoin.hasBlockRole]
          exact hi
      exact hrelate.trans (h.tag_update hrole _ hi)
  | @continues X f fs hs he hc hX hf =>
      have hrole : (s.roster.tag j).hasBlockRole = true := Tag.hasBlockRole_of_isContinuation hc
      have hstarts := h.starts_ofType hf
      refine ⟨hagree, fun i hi => h.tag_update hrole _ hi, OpenFrames.unique_set h.unique _ _,
        h.starts_set _ ?_⟩
      intro g hg
      rcases List.mem_cons.1 hg with rfl | hg
      · exact hstarts f List.mem_cons_self
      · exact hstarts g (List.mem_cons_of_mem _ hg)
  | orphan hs hrole hX =>
      have hrole' : (s.roster.tag j).hasBlockRole = true := by
        rcases hrole with hrole | hrole
        · exact Tag.hasBlockRole_of_isEnd hrole
        · exact Tag.hasBlockRole_of_isContinuation hrole
      exact ⟨hagree, fun i hi => h.tag_update hrole' _ hi, h.unique, h.starts⟩
  | ignores hrole => exact ⟨hagree, h.spared, h.unique, h.starts⟩

theorem foldl (h : s.Spares r) (T : TagTables) (is : List TagId) :
    (is.foldl (State.step T) s).Spares r := by
  induction is generalizing s with
  | nil => exact h
  | cons j is ih => exact ih (h.step T j)

end State.Spares

/-- So does the sweep over the frames that were never closed. -/
theorem tag_foldl_leaveOpen_of_bystander {fs : List Frame} (ha : r'.Agree r)
    (hfs : ∀ f ∈ fs, (r.tag f.start).isStart = true) (hi : (r.tag i).hasBlockRole = false) :
    (fs.foldl State.leaveOpen r').tag i = r'.tag i := by
  induction fs generalizing r' with
  | nil => rfl
  | cons f fs ih =>
      have hstart := hfs f List.mem_cons_self
      have hmark : (r'.update f.start (markFault (.unclosed f.blockType))).Agree r :=
        (agree_markFault _ _ _).trans ha
      have hsweep : (State.leaveOpen r' f).Agree r := (agree_relate _ _).trans hmark
      have hne : f.start ≠ i := ne_of_bystander (Tag.hasBlockRole_of_isStart hstart) hi
      calc
        ((f :: fs).foldl State.leaveOpen r').tag i
            = (State.leaveOpen r' f).tag i :=
              ih hsweep fun g hg => hfs g (List.mem_cons_of_mem _ hg)
        _ = (r'.update f.start (markFault (.unclosed f.blockType))).tag i := by
              refine Frame.tag_relate_of_bystander ?_ ?_
              · rw [hmark.isStart]
                exact hstart
              · rw [hmark.hasBlockRole]
                exact hi
        _ = r'.tag i := Roster.tag_update_of_ne _ hne _

theorem tag_fresh_of_bystander (is : List TagId) (hi : (r.tag i).hasBlockRole = false) :
    (fresh r is).tag i = r.tag i := by
  refine Roster.tag_updateAll_of_notMem _ (fun hmem => ?_) _
  have hrole := (List.mem_filter.1 hmem).2
  rw [hi] at hrole
  cases hrole

/-- A whole pairing leaves a tag that takes no part alone. -/
theorem tag_paired_of_bystander (ids : IdSource) (parts : List TagId)
    (hi : (r.tag i).hasBlockRole = false) : (paired T ids parts r).1.tag i = r.tag i := by
  have hstart : State.Spares r { roster := r, ids := ids } :=
    ⟨.refl r, fun _ _ => rfl, List.nodup_nil, fun _ hf => absurd hf List.not_mem_nil⟩
  have hsteps := hstart.foldl T parts
  exact (tag_foldl_leaveOpen_of_bystander hsteps.agree hsteps.starts hi).trans (hsteps.spared i hi)

theorem hasBlockRole_of_fault? {b : Imbalance} {f : Fault} (h : b.fault? r i = some f) :
    (r.tag i).hasBlockRole = true := by
  simp only [Imbalance.fault?] at h
  split at h
  · split at h
    · next hc =>
        simp only [Bool.and_eq_true] at hc
        exact Tag.hasBlockRole_of_isStart hc.1.1
    · cases h
  · split at h
    · next hc =>
        simp only [Bool.and_eq_true] at hc
        exact Tag.hasBlockRole_of_isEnd hc.1.1
    · cases h

theorem tag_mark_of_bystander (b : Imbalance) {s : Roster × List Text} (j : TagId)
    (hi : (s.1.tag i).hasBlockRole = false) : (b.mark s j).1.tag i = s.1.tag i := by
  unfold Imbalance.mark
  cases hf : b.fault? s.1 j with
  | none => rfl
  | some f =>
      dsimp only
      split
      · rfl
      · exact Roster.tag_update_of_ne _ (ne_of_bystander (hasBlockRole_of_fault? hf) hi) _

/-- The check does no more to a tag that takes no part than to clear its error. -/
theorem tag_check_of_bystander (is : List TagId) (hi : (r.tag i).hasBlockRole = false) :
    (check r is).1.tag i = (r.updateAll is clearError).tag i := by
  have hclear : (r.updateAll is clearError).Agree r :=
    .updateAll (fun t => by unfold clearError; split <;> rfl) _ _
  rw [← hclear.hasBlockRole] at hi
  have hmarks (b : Imbalance) (js : List TagId) (s : Roster × List Text)
      (hs : (s.1.tag i).hasBlockRole = false) : (js.foldl b.mark s).1.tag i = s.1.tag i := by
    induction js generalizing s with
    | nil => rfl
    | cons j js ih =>
        have hmark := tag_mark_of_bystander b j hs
        rw [List.foldl_cons, ih _ (by rw [hmark, hs]), hmark]
  have hall (bs : List Imbalance) (s : Roster × List Text) (hs : (s.1.tag i).hasBlockRole = false) :
      (bs.foldl (fun s b => is.foldl b.mark s) s).1.tag i = s.1.tag i := by
    induction bs generalizing s with
    | nil => rfl
    | cons b bs ih =>
        have hmark := hmarks b is s hs
        rw [List.foldl_cons, ih _ (by rw [hmark, hs]), hmark]
  exact hall _ _ hi

/-! ## Cleared errors -/

/-- Only the error of a tag is cleared. -/
theorem exists_clearError_eq (t : Tag) : ∃ e, clearError t = { t with error := e } := by
  unfold clearError
  split
  · exact ⟨none, rfl⟩
  · exact ⟨t.error, rfl⟩

theorem clearError_clearError (t : Tag) : clearError (clearError t) = clearError t := by
  by_cases h : (t.isSuccess && decide (t.error ≠ some [])) = true
  · have hclear : clearError t = { t with error := none } := if_pos h
    rw [hclear]
    exact clearError_eq_self fun _ => rfl
  · have hkeep : clearError t = t := if_neg h
    rw [hkeep, hkeep]

/-- What leaves no error to clear, whatever the error was, may be done before or behind. -/
theorem clearError_comm {f : Tag → Tag} (hsettled : ∀ t, (f t).Settled)
    (hconst : ∀ t e, f { t with error := e } = f t) (t : Tag) :
    clearError (f t) = f (clearError t) := by
  rcases exists_clearError_eq t with ⟨e, he⟩
  rw [clearError_eq_self (hsettled t), he]
  exact (hconst t e).symm

theorem clearError_withRelated (is : List TagId) (t : Tag) :
    clearError (t.withRelated is) = (clearError t).withRelated is := by
  by_cases h : (t.isSuccess && decide (t.error ≠ some [])) = true
  · have hclear : clearError t = { t with error := none } := if_pos h
    have hrelated :
        clearError (t.withRelated is) = { t.withRelated is with error := none } := if_pos h
    rw [hclear, hrelated]
    rfl
  · have hkeep : clearError t = t := if_neg h
    have hrelated : clearError (t.withRelated is) = t.withRelated is := if_neg h
    rw [hkeep, hrelated]

/-- Pairing overlooks that errors were cleared. -/
theorem overlooked_clearError : Overlooked (PlacedTag.mapTag clearError) := by
  have hcomm {f : Tag → Tag} (hf : ∀ t, clearError (f t) = f (clearError t)) (t : PlacedTag) :
      (t.mapTag f).mapTag clearError = (t.mapTag clearError).mapTag f := by
    simp only [PlacedTag.mapTag, hf]
  have hfield {α : Type} (g : Tag → α) (hg : ∀ t e, g { t with error := e } = g t) (t : PlacedTag) :
      g (t.mapTag clearError).toTag = g t.toTag := by
    rcases exists_clearError_eq t.toTag with ⟨e, he⟩
    simp only [PlacedTag.mapTag, he, hg]
  exact {
    absent := rfl
    name := hfield Tag.name fun _ _ => rfl
    isStart := hfield Tag.isStart fun _ _ => rfl
    isEnd := hfield Tag.isEnd fun _ _ => rfl
    isContinuation := hfield Tag.isContinuation fun _ _ => rfl
    reset := hcomm (clearError_comm (fun _ _ => rfl) fun _ _ => rfl)
    opening := fun id => hcomm (clearError_comm (fun _ _ => rfl) fun _ _ => rfl)
    joining := fun id => hcomm (clearError_comm (fun _ _ => rfl) fun _ _ => rfl)
    withRelated := fun is => hcomm (clearError_withRelated is)
    markFault := fun f => hcomm
      (clearError_comm (fun _ hsuccess => by cases hsuccess) fun _ _ => rfl) }

/-- Pairing and checking do no more to a tag that takes no part than to clear its error. -/
theorem tag_checked_of_bystander (T : TagTables) (hi : (r.tag i).hasBlockRole = false) :
    (run T r).checked.tag i = (r.tag i).mapTag clearError := by
  have hlen : (run T r).associated.length = r.length := (agree_associate T {} r _).length_eq
  have hfresh := tag_fresh_of_bystander (List.range r.length) hi
  have hassociated : (run T r).associated.tag i = r.tag i := by
    rw [← hfresh] at hi
    exact (tag_paired_of_bystander {} _ hi).trans hfresh
  calc
    (run T r).checked.tag i
        = ((run T r).associated.updateAll (List.range r.length) clearError).tag i := by
          rw [← hassociated] at hi
          exact tag_check_of_bystander _ hi
    _ = ((run T r).associated.tag i).mapTag clearError := by
          rw [← hlen, Roster.updateAll_range, overlooked_clearError.tag]
    _ = (r.tag i).mapTag clearError := by rw [hassociated]

/-! ## The whole -/

/-- Where the tags agree, and those that take no part differ in cleared errors only, pairing and
checking come to the same. -/
theorem checked_run_congr (T : TagTables) (ha : r'.Agree r)
    (hb : ∀ i, (r.tag i).hasBlockRole = false → r'.tag i = (r.tag i).mapTag clearError) :
    (run T r').checked = (run T r).checked := by
  have hg := overlooked_clearError
  have hlen : r'.length = r.length := ha.length_eq
  generalize hall : List.range r.length = all
  have hparts : participants r' all = participants r all := ha.participants all
  -- A tag that takes part is wiped out, and any other is left alone.
  have hfresh : fresh r' all = (fresh r all).map (PlacedTag.mapTag clearError) := by
    have hagree (s : Roster) : (fresh s all).Agree s := .updateAll (by intro t; rfl) _ _
    refine Roster.ext_tag ?_ fun i => ?_
    · rw [List.length_map, (hagree r').length_eq, (hagree r).length_eq, hlen]
    · rw [hg.tag]
      cases hi : (r.tag i).hasBlockRole with
      | true =>
          have hlt := Roster.lt_length_of_hasBlockRole hi
          have hmem : i ∈ all := hall ▸ List.mem_range.2 hlt
          have hnodup : all.Nodup := hall ▸ List.nodup_range
          rw [tag_fresh hnodup hmem (hlen ▸ hlt) ((ha.hasBlockRole i).trans hi),
            tag_fresh hnodup hmem hlt hi, ha.tag_reset]
          rfl
      | false => rw [tag_fresh_of_bystander all ((ha.hasBlockRole i).trans hi),
          tag_fresh_of_bystander all hi, hb i hi]
  have hassociated : (associate T {} r' all).1 =
      (associate T {} r all).1.map (PlacedTag.mapTag clearError) := by
    rw [associate_eq_paired, associate_eq_paired, hparts, hfresh, hg.paired]
  have hclear : (associate T {} r' all).1.updateAll all clearError =
      (associate T {} r all).1.updateAll all clearError := by
    have hlength : (associate T {} r all).1.length = r.length :=
      (agree_associate T {} r all).length_eq
    have hidem (t : PlacedTag) : (t.mapTag clearError).mapTag clearError = t.mapTag clearError := by
      simp only [PlacedTag.mapTag, clearError_clearError]
    rw [hassociated, Roster.updateAll_map (fun _ => rfl)]
    generalize (associate T {} r all).1 = associated at hlength ⊢
    rw [← hall, ← hlength, Roster.updateAll_range, List.map_map]
    exact List.map_congr_left fun t _ => hidem t
  have hcheck : check (associate T {} r' all).1 all = check (associate T {} r all).1 all := by
    simp only [check, hclear]
  have hrun (s : Roster) (hs : s.length = r.length) :
      (run T s).checked = (check (associate T {} s all).1 all).1 := by
    rw [← hall, ← hs]
    rfl
  rw [hrun r' hlen, hrun r rfl, hcheck]

end Pairing
end LiquidMarkdown
