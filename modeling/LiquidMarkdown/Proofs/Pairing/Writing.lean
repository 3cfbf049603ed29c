import LiquidMarkdown.Proofs.Pairing.Repetition

/-!
# What pairing writes into tags

Pairing and its check write into tags in a handful of ways only.  What each of these ways keeps of a
tag, a whole pairing keeps of all tags, in whatever order and however often they are given.  This
file defines:

* `Roster.Every` — something holds of all tags of a roster, `Roster.Every.update`;
* `Pairing.Kept` — every way to write into a tag keeps something;
* `Pairing.every_step` — one tag more keeps it of all tags;
* `Pairing.every_associate`, `Pairing.every_check` — so do a whole pairing and its check;
* `Pairing.tag_associate_of_bystander` — tags that take no part are not written at all.
-/

namespace LiquidMarkdown

variable {P : Tag → Prop} {r : Roster}

/-! ## Rosters -/

namespace Roster

/-- Something holds of every tag of the roster, and of the tag of a number that it does not have. -/
def Every (P : Tag → Prop) (r : Roster) : Prop :=
  ∀ i, P (r.tag i).toTag

theorem Every.of_mem (h : r.Every P) {t : PlacedTag} (ht : t ∈ r) : P t.toTag := by
  rcases List.getElem_of_mem ht with ⟨i, hi, rfl⟩
  have hi' := h i
  rwa [← getElem_eq_tag hi] at hi'

theorem every_of_mem (habsent : P absent.toTag) (h : ∀ t ∈ r, P t.toTag) : r.Every P := by
  intro i
  by_cases hi : i < r.length
  · exact h _ (tag_mem hi)
  · rw [tag_of_length_le (Nat.le_of_not_lt hi)]
    exact habsent

theorem Every.update (h : r.Every P) (i : TagId) {f : Tag → Tag} (hf : ∀ t, P t → P (f t)) :
    (r.update i f).Every P := by
  intro j
  rw [tag_update]
  split
  · exact hf _ (h j)
  · exact h j

theorem Every.updateAll (h : r.Every P) (is : List TagId) {f : Tag → Tag}
    (hf : ∀ t, P t → P (f t)) : (r.updateAll is f).Every P := by
  induction is generalizing r with
  | nil => exact h
  | cons i is ih => exact ih (h.update i hf)

end Roster

/-! ## Pairing -/

namespace Pairing

/-- Every way in which pairing and its check write into a tag keeps something of it. -/
structure Kept (P : Tag → Prop) : Prop where
  reset : ∀ t : Tag, P t → P t.reset
  opening : ∀ id t, P t → P (Tag.opening id t)
  joining : ∀ id t, P t → P (Tag.joining id t)
  withRelated : ∀ is t, P t → P (Tag.withRelated is t)
  markFault : ∀ f t, P t → P (markFault f t)
  clearError : ∀ t, P t → P (clearError t)

variable (hP : Kept P)
include hP

theorem every_relate (h : r.Every P) (f : Frame) : (f.relate r).Every P := by
  rw [Frame.relate_eq]
  exact (h.update _ (hP.withRelated _)).updateAll _ (hP.withRelated _)

theorem every_joinFrame (h : r.Every P) (i : TagId) (f : Frame) :
    (State.joinFrame r i f).Every P :=
  h.update i (hP.joining f.id)

theorem every_orphan {s : State} (h : s.roster.Every P) (i : TagId) (f : Fault) :
    (s.orphan i f).roster.Every P :=
  h.update i (hP.markFault f)

/-- One tag more: whichever way it is paired, all tags keep it. -/
theorem every_step {s : State} (h : s.roster.Every P) (T : TagTables) (i : TagId) :
    (s.step T i).roster.Every P := by
  simp only [State.step]
  split
  · exact h.update i (hP.opening _)
  · split
    · simp only [State.closeFrame]
      split
      · exact every_orphan hP h i _
      · exact every_relate hP (every_joinFrame hP h i _) _
    · split
      · unfold State.continueFrame
        split
        · exact every_orphan hP h i _
        · split
          · exact every_orphan hP h i _
          · exact every_joinFrame hP h i _
      · exact h

theorem every_foldl_step {s : State} (h : s.roster.Every P) (T : TagTables) (is : List TagId) :
    (is.foldl (State.step T) s).roster.Every P := by
  induction is generalizing s with
  | nil => exact h
  | cons i is ih => exact ih (every_step hP h T i)

theorem every_foldl_leaveOpen (h : r.Every P) (fs : List Frame) :
    (fs.foldl State.leaveOpen r).Every P := by
  induction fs generalizing r with
  | nil => exact h
  | cons f fs ih => exact ih (every_relate hP (h.update _ (hP.markFault _)) f)

/-- A whole pairing keeps it of all tags. -/
theorem every_associate (h : r.Every P) (T : TagTables) (ids : IdSource) (is : List TagId) :
    (associate T ids r is).1.Every P :=
  every_foldl_leaveOpen hP (every_foldl_step hP (h.updateAll _ hP.reset) T _) _

theorem every_mark {s : Roster × List Text} (h : s.1.Every P) (b : Imbalance) (i : TagId) :
    (b.mark s i).1.Every P := by
  unfold Imbalance.mark
  split
  · exact h
  · split
    · exact h
    · exact h.update i (hP.markFault _)

theorem every_foldl_mark {s : Roster × List Text} (h : s.1.Every P) (b : Imbalance)
    (is : List TagId) : (is.foldl b.mark s).1.Every P := by
  induction is generalizing s with
  | nil => exact h
  | cons i is ih => exact ih (every_mark hP h b i)

/-- So does the check. -/
theorem every_check (h : r.Every P) (is : List TagId) : (check r is).1.Every P := by
  have hmarks (bs : List Imbalance) {s : Roster × List Text} (hs : s.1.Every P) :
      (bs.foldl (fun s b => is.foldl b.mark s) s).1.Every P := by
    induction bs generalizing s with
    | nil => exact hs
    | cons b bs ih => exact ih (every_foldl_mark hP hs b is)
  exact hmarks _ (h.updateAll is hP.clearError)

end Pairing

/-! ## Bystanders -/

/-- A tag without a role is left alone by a pairing, whether it was given or not. -/
theorem Pairing.tag_associate_of_bystander (T : TagTables) (ids : IdSource) (is : List TagId)
    {i : TagId} (hi : (r.tag i).hasBlockRole = false) :
    (associate T ids r is).1.tag i = r.tag i := by
  have hagree : (fresh r is).Agree r := .updateAll (by intro t; rfl) r (participants r is)
  have hfresh : ((fresh r is).tag i).hasBlockRole = false := by
    rw [hagree.hasBlockRole, hi]
  calc
    (associate T ids r is).1.tag i
        = (paired T ids (participants r is) (fresh r is)).1.tag i := by rw [associate_eq_paired]
    _ = (fresh r is).tag i := tag_paired_of_bystander ids _ hfresh
    _ = r.tag i := tag_fresh_of_bystander is hi

end LiquidMarkdown
