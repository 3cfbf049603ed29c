import LiquidMarkdown.Proofs.Pairing.Association

/-!
# The outcome of pairing

Whatever pairing and its check write into a tag, it says whether the tag was read, and if not, why.
This file defines:

* `Construct.Decided` — a construct was read, or has failed with an error that says something;
* `Pairing.Fault.message_ne_nil` — every fault has a wording;
* `Pairing.Associated.decided` — every tag that takes part in a pairing is decided by it;
* `Pairing.decided_associate`, `Pairing.decided_check` — pairing and checking leave decided tags
  decided.
-/

namespace LiquidMarkdown

/-! ## Decided constructs -/

/-- The construct was read and has no error, or it has failed and its error says something. -/
inductive Construct.Decided (c : Construct) : Prop where
  | success (outcome : c.outcome = .success) (error : c.error = none)
  | failed {message : Text} (outcome : c.outcome = .failed) (error : c.error = some message)
      (ne_nil : message ≠ [])

namespace Construct

theorem decided_succeed (c : Construct) (parsed : Option Parsed) : (c.succeed parsed).Decided :=
  .success rfl rfl

theorem decided_fail (c : Construct) {error : Text} (h : error ≠ []) (kind : Text)
    (tagName : Option Text) : (c.fail error kind tagName).Decided :=
  .failed rfl rfl h

theorem Decided.outcome_ne_pending {c : Construct} (h : c.Decided) : c.outcome ≠ .pending := by
  intro hp
  cases h with
  | success ho _ => simp [ho] at hp
  | failed ho _ _ => simp [ho] at hp

end Construct

/-! ## Texts that say something -/

namespace Text

theorem ofString_ne_nil {s : String} (h : s ≠ "") : (s : Text) ≠ [] := by
  simpa using h

theorem ofString_append_ne_nil {s : String} (h : s ≠ "") (t : Text) : (s : Text) ++ t ≠ [] :=
  List.append_ne_nil_of_left_ne_nil (ofString_ne_nil h) t

end Text

namespace Pairing

/-- Every fault has a wording. -/
theorem Fault.message_ne_nil (f : Fault) : f.message ≠ [] := by
  cases f with
  | unclosed | orphanedEnd | orphanedContinuation | unknownContinuation =>
      exact List.append_ne_nil_of_left_ne_nil (Text.ofString_append_ne_nil (by simp) _) _

theorem decided_markFault (f : Fault) (t : Tag) : (markFault f t).Decided :=
  t.toConstruct.decided_fail f.message_ne_nil _ _

/-! ## Pairing -/

variable {T : TagTables} {r r₀ r' : Roster} {ps is : List TagId} {res : Result} {i : TagId}

/-- The tags of a frame are decided, be it closed or not. -/
theorem Frame.decided {f : Frame} (h : f.Left T r r₀ ps r' ∨ f.Closed T r r₀ ps r')
    (hi : i ∈ f.members) : (r'.tag i).Decided := by
  have hsettled := Frame.settled h
  rw [hsettled.members] at hi
  rcases List.mem_cons.1 hi with rfl | hi
  · -- The opening tag has failed if the frame was never closed.
    rcases h with ⟨_, _, hstart, _⟩ | ⟨_, _, _, hstart, _⟩
    · rw [hstart]
      exact .failed rfl rfl (Fault.unclosed f.blockType).message_ne_nil
    · rw [hstart]
      exact .success rfl rfl
  · rw [hsettled.other i hi]
    exact .success rfl rfl

/-- Every tag that takes part in a pairing is decided by it. -/
theorem Associated.decided (h : Associated T r r₀ ps r' res) (hi : i ∈ ps)
    (hrole : (r.tag i).hasBlockRole = true) : (r'.tag i).Decided := by
  rcases h.cases_mem hi hrole with ⟨f, hif, hf⟩ | ho
  · exact Frame.decided hf hif
  · rw [ho.written]
    exact decided_markFault _ _

end Pairing

/-- All tags of the roster are decided. -/
def Roster.Decided (r : Roster) : Prop :=
  ∀ i < r.length, (r.tag i).Decided

theorem Roster.Decided.of_mem {r : Roster} (h : r.Decided) {t : PlacedTag} (ht : t ∈ r) :
    t.Decided := by
  rcases List.getElem_of_mem ht with ⟨i, hi, rfl⟩
  have hdecided := h i hi
  rwa [← getElem_eq_tag hi] at hdecided

/-- A change that leaves decided tags decided. -/
theorem Roster.Decided.update {r : Roster} (h : r.Decided) (i : TagId) {f : Tag → Tag}
    (hf : ∀ t : Tag, t.Decided → (f t).Decided) : Roster.Decided (r.update i f) := by
  intro j hj
  rw [length_update] at hj
  rw [tag_update]
  split
  · exact hf _ (h j hj)
  · exact h j hj

theorem Roster.Decided.updateAll {r : Roster} (h : r.Decided) (is : List TagId) {f : Tag → Tag}
    (hf : ∀ t : Tag, t.Decided → (f t).Decided) : Roster.Decided (r.updateAll is f) := by
  induction is generalizing r with
  | nil => exact h
  | cons i is ih => exact ih (h.update i hf)

namespace Pairing

variable {T : TagTables} {r : Roster}

/-- A pairing of all tags leaves decided tags decided. -/
theorem decided_associate (ids : IdSource) (hr : ∀ i ∈ List.range r.length, (r.tag i).SingleRole)
    (hd : r.Decided) : Roster.Decided (associate T ids r (List.range r.length)).1 := by
  have h := associated_of_singleRole (T := T) ids List.nodup_range (fun i => List.mem_range.1) hr
  intro i hi
  rw [h.agree.length_eq] at hi
  have hmem : i ∈ r.inDocumentOrder (List.range r.length) :=
    Roster.mem_inDocumentOrder.2 (List.mem_range.2 hi)
  by_cases hrole : (r.tag i).hasBlockRole = true
  · exact h.decided hmem hrole
  · -- A tag that stands alone is neither wiped out nor paired.
    have hout : i ∉ participants r (List.range r.length) := fun hp =>
      hrole (List.mem_filter.1 hp).2
    have hfresh : (fresh r (List.range r.length)).tag i = r.tag i :=
      Roster.tag_updateAll_of_notMem r hout _
    rw [h.untouched i fun _ => Bool.eq_false_iff.2 hrole, hfresh]
    exact hd i hi

/-! ## The check -/

theorem decided_clearError {t : Tag} (h : t.Decided) : (clearError t).Decided := by
  unfold clearError
  split
  · next hc =>
      -- Errors are cleared only where the outcome is a success.
      rw [Bool.and_eq_true] at hc
      exact .success (beq_iff_eq.1 hc.1) rfl
  · exact h

theorem decided_mark {s : Roster × List Text} (h : s.1.Decided) (b : Imbalance) (i : TagId) :
    (b.mark s i).1.Decided := by
  unfold Imbalance.mark
  split
  · exact h
  · split
    · exact h
    · exact h.update i fun t _ => decided_markFault _ t

theorem decided_foldl_mark {s : Roster × List Text} (h : s.1.Decided) (b : Imbalance)
    (is : List TagId) : (is.foldl b.mark s).1.Decided := by
  induction is generalizing s with
  | nil => exact h
  | cons i is ih => exact ih (decided_mark h b i)

theorem decided_foldl_marks {s : Roster × List Text} (h : s.1.Decided) (bs : List Imbalance)
    (is : List TagId) : (bs.foldl (fun s b => is.foldl b.mark s) s).1.Decided := by
  induction bs generalizing s with
  | nil => exact h
  | cons b bs ih => exact ih (decided_foldl_mark h b is)

/-- The check leaves decided tags decided. -/
theorem decided_check (h : r.Decided) (is : List TagId) : (check r is).1.Decided :=
  decided_foldl_marks (h.updateAll is fun _ => decided_clearError) _ is

end Pairing
end LiquidMarkdown
