import LiquidMarkdown.Pairing.Check

/-!
# Laws of rosters

Pairing and its check change a roster tag by tag.  This file states:

* `Roster.tag_update`, `Roster.tag_updateAll_of_mem` — what a change does to the tag of a number;
* `Roster.mem_inDocumentOrder`, `Roster.nodup_inDocumentOrder` — sorting loses nothing;
* `Roster.Agree` — two rosters hold the same tags, apart from how reading and pairing came out;
* `Pairing.agree_associate`, `Pairing.agree_check` — pairing and its check change nothing else.
-/

namespace LiquidMarkdown

/-! ## Single tags -/

namespace Roster

section

variable {r : Roster} {i : TagId}

theorem getElem_eq_tag (h : i < r.length) : r[i] = r.tag i := by
  rw [tag, List.getD_eq_getElem?_getD, List.getElem?_eq_getElem h, Option.getD_some]

theorem tag_mem (h : i < r.length) : r.tag i ∈ r := by
  rw [← getElem_eq_tag h]
  exact List.getElem_mem h

/-- A number that is out of range stands for a tag that was not read. -/
theorem tag_of_length_le (h : r.length ≤ i) : r.tag i = absent := by
  rw [tag, List.getD_eq_getElem?_getD, List.getElem?_eq_none h, Option.getD_none]

theorem lt_length_of_isStart (h : (r.tag i).isStart = true) : i < r.length := by
  apply Nat.lt_of_not_le
  intro hle
  rw [tag_of_length_le hle] at h
  cases h

end

theorem tag_map {g : PlacedTag → PlacedTag} (h : g absent = absent) (r : Roster) (i : TagId) :
    tag (r.map g) i = g (r.tag i) := by
  simp only [tag, List.getD_eq_getElem?_getD, List.getElem?_map]
  cases r[i]? with
  | none => exact h.symm
  | some t => rfl

/-- A roster lists its tags by number. -/
theorem map_tag_range (r : Roster) : (List.range r.length).map r.tag = r := by
  apply List.ext_getElem
  · rw [List.length_map, List.length_range]
  · intro i hi hi'
    rw [List.getElem_map, List.getElem_range, getElem_eq_tag hi']

theorem filter_eq_map_tag (r : Roster) (p : PlacedTag → Bool) :
    r.filter p = ((List.range r.length).filter fun i => p (r.tag i)).map r.tag :=
  calc
    r.filter p = ((List.range r.length).map r.tag).filter p := by rw [r.map_tag_range]
    _ = ((List.range r.length).filter fun i => p (r.tag i)).map r.tag := List.filter_map

theorem tag_update (r : Roster) (i j : TagId) (f : Tag → Tag) :
    (r.update i f).tag j =
      if i = j ∧ j < r.length then (r.tag j).mapTag f else r.tag j := by
  simp only [tag, update, List.getD_eq_getElem?_getD, List.getElem?_modify]
  by_cases hij : i = j
  · by_cases hj : j < r.length
    · simp [hij, hj]
    · simp [hij, hj]
  · simp [hij]

theorem tag_update_self {r : Roster} {i : TagId} (h : i < r.length) (f : Tag → Tag) :
    (r.update i f).tag i = (r.tag i).mapTag f := by
  rw [tag_update, if_pos ⟨rfl, h⟩]

theorem tag_update_of_ne (r : Roster) {i j : TagId} (h : i ≠ j) (f : Tag → Tag) :
    (r.update i f).tag j = r.tag j := by
  rw [tag_update, if_neg fun hc => h hc.1]

theorem tag_updateAll_of_notMem (r : Roster) {is : List TagId} {j : TagId} (h : j ∉ is)
    (f : Tag → Tag) : (r.updateAll is f).tag j = r.tag j := by
  induction is generalizing r with
  | nil => rfl
  | cons i is ih =>
      have hi : i ≠ j := fun hc => h (hc ▸ List.mem_cons_self)
      have hr := ih (r.update i f) fun hc => h (List.mem_cons_of_mem _ hc)
      rw [tag_update_of_ne r hi] at hr
      exact hr

/-- A change to different tags changes each of them once. -/
theorem tag_updateAll_of_mem {r : Roster} {is : List TagId} (hn : is.Nodup) {j : TagId}
    (h : j ∈ is) (hj : j < r.length) (f : Tag → Tag) :
    (r.updateAll is f).tag j = (r.tag j).mapTag f := by
  induction is generalizing r with
  | nil => cases h
  | cons i is ih =>
      have hn' := List.nodup_cons.1 hn
      rcases List.mem_cons.1 h with rfl | h
      · have hr := tag_updateAll_of_notMem (r.update j f) hn'.1 f
        rw [tag_update_self hj] at hr
        exact hr
      · have hi : i ≠ j := fun hc => hn'.1 (hc ▸ h)
        have hr := ih hn'.2 h (r := r.update i f) (by rwa [length_update])
        rw [tag_update_of_ne r hi] at hr
        exact hr

/-! ## Document order -/

theorem inDocumentOrder_perm (r : Roster) (is : List TagId) : (r.inDocumentOrder is).Perm is := by
  unfold inDocumentOrder
  split
  · exact List.mergeSort_perm ..
  · exact .refl _

theorem mem_inDocumentOrder {r : Roster} {is : List TagId} {i : TagId} :
    i ∈ r.inDocumentOrder is ↔ i ∈ is :=
  (r.inDocumentOrder_perm is).mem_iff

theorem nodup_inDocumentOrder {r : Roster} {is : List TagId} (h : is.Nodup) :
    (r.inDocumentOrder is).Nodup :=
  (r.inDocumentOrder_perm is).nodup_iff.2 h

/-! ## Agreement -/

/-- The rosters hold the same tags, apart from how reading and pairing came out. -/
def Agree (r r' : Roster) : Prop :=
  r.map (PlacedTag.mapTag Tag.reset) = r'.map (PlacedTag.mapTag Tag.reset)

namespace Agree

variable {r r' r'' : Roster}

theorem refl (r : Roster) : r.Agree r := rfl

theorem trans (h : r.Agree r') (h' : r'.Agree r'') : r.Agree r'' := Eq.trans h h'

theorem length_eq (h : r.Agree r') : r.length = r'.length := by
  simpa using congrArg List.length h

theorem tag_reset (h : r.Agree r') (i : TagId) :
    (r.tag i).mapTag Tag.reset = (r'.tag i).mapTag Tag.reset := by
  -- The number that is out of range has a tag that is reset already.
  have habsent : absent.mapTag Tag.reset = absent := rfl
  have key (s : Roster) : (s.tag i).mapTag Tag.reset =
      ((s.map (PlacedTag.mapTag Tag.reset))[i]?).getD absent := by
    simp only [tag, List.getD_eq_getElem?_getD, List.getElem?_map]
    cases s[i]? with
    | none => exact habsent
    | some t => rfl
  rw [key, key, h]

/-- Whatever does not read how reading and pairing came out is the same in both rosters. -/
theorem field {α : Type} (g : PlacedTag → α) (hg : ∀ t, g (t.mapTag Tag.reset) = g t)
    (h : r.Agree r') (i : TagId) : g (r.tag i) = g (r'.tag i) := by
  rw [← hg (r.tag i), ← hg (r'.tag i), h.tag_reset i]

theorem raw (h : r.Agree r') (i : TagId) : (r.tag i).raw = (r'.tag i).raw :=
  h.field (·.raw) (fun _ => rfl) i

theorem name (h : r.Agree r') (i : TagId) : (r.tag i).name = (r'.tag i).name :=
  h.field (·.name) (fun _ => rfl) i

theorem isStart (h : r.Agree r') (i : TagId) : (r.tag i).isStart = (r'.tag i).isStart :=
  h.field (·.isStart) (fun _ => rfl) i

theorem isEnd (h : r.Agree r') (i : TagId) : (r.tag i).isEnd = (r'.tag i).isEnd :=
  h.field (·.isEnd) (fun _ => rfl) i

theorem isContinuation (h : r.Agree r') (i : TagId) :
    (r.tag i).isContinuation = (r'.tag i).isContinuation :=
  h.field (·.isContinuation) (fun _ => rfl) i

theorem hasBlockRole (h : r.Agree r') (i : TagId) :
    (r.tag i).hasBlockRole = (r'.tag i).hasBlockRole :=
  h.field (·.hasBlockRole) (fun _ => rfl) i

theorem update {f : Tag → Tag} (hf : ∀ t, (f t).reset = t.reset) (r : Roster) (i : TagId) :
    (r.update i f).Agree r := by
  have key (t : PlacedTag) : (t.mapTag f).mapTag Tag.reset = t.mapTag Tag.reset := by
    simp only [PlacedTag.mapTag, hf]
  simp only [Agree, Roster.update]
  apply List.ext_getElem?
  intro j
  simp only [List.getElem?_map, List.getElem?_modify]
  cases r[j]? with
  | none => rfl
  | some t =>
      by_cases hij : i = j
      · simp [hij, key]
      · simp [hij]

theorem updateAll {f : Tag → Tag} (hf : ∀ t, (f t).reset = t.reset) (r : Roster)
    (is : List TagId) : (r.updateAll is f).Agree r := by
  induction is generalizing r with
  | nil => exact .refl r
  | cons i is ih => exact (ih (r.update i f)).trans (.update hf r i)

end Agree
end Roster

/-! ## What pairing leaves alone -/

namespace Pairing

theorem agree_relate (f : Frame) (r : Roster) : (f.relate r).Agree r :=
  (Roster.Agree.updateAll (by intro t; rfl) _ _).trans (.update (by intro t; rfl) _ _)

theorem agree_joinFrame (r : Roster) (i : TagId) (f : Frame) :
    (State.joinFrame r i f).Agree r :=
  .update (by intro t; rfl) _ _

theorem agree_markFault (r : Roster) (i : TagId) (f : Fault) :
    (r.update i (markFault f)).Agree r :=
  .update (by intro t; rfl) _ _

theorem agree_step (T : TagTables) (s : State) (i : TagId) :
    (s.step T i).roster.Agree s.roster := by
  simp only [State.step]
  split
  · exact .update (by intro t; rfl) _ _
  · split
    · simp only [State.closeFrame]
      split
      · exact agree_markFault _ _ _
      · exact (agree_relate _ _).trans (agree_joinFrame _ _ _)
    · split
      · unfold State.continueFrame
        split
        · exact agree_markFault _ _ _
        · split
          · exact agree_markFault _ _ _
          · exact agree_joinFrame _ _ _
      · exact .refl _

theorem agree_foldl_step (T : TagTables) (is : List TagId) (s : State) :
    (is.foldl (State.step T) s).roster.Agree s.roster := by
  induction is generalizing s with
  | nil => exact .refl _
  | cons i is ih => exact (ih (s.step T i)).trans (agree_step T s i)

theorem agree_foldl_leaveOpen (fs : List Frame) (r : Roster) :
    (fs.foldl State.leaveOpen r).Agree r := by
  induction fs generalizing r with
  | nil => exact .refl _
  | cons f fs ih =>
      exact (ih (State.leaveOpen r f)).trans ((agree_relate f _).trans (agree_markFault _ _ _))

/-- Pairing changes nothing about a tag but how it is paired. -/
theorem agree_associate (T : TagTables) (ids : IdSource) (r : Roster) (is : List TagId) :
    (associate T ids r is).1.Agree r :=
  (agree_foldl_leaveOpen _ _).trans
    ((agree_foldl_step _ _ _).trans (.updateAll (by intro t; rfl) _ _))

theorem agree_mark (b : Imbalance) (s : Roster × List Text) (i : TagId) :
    (b.mark s i).1.Agree s.1 := by
  unfold Imbalance.mark
  split
  · exact .refl _
  · split
    · exact .refl _
    · exact agree_markFault _ _ _

theorem agree_foldl_mark (b : Imbalance) (is : List TagId) (s : Roster × List Text) :
    (is.foldl b.mark s).1.Agree s.1 := by
  induction is generalizing s with
  | nil => exact .refl _
  | cons i is ih => exact (ih (b.mark s i)).trans (agree_mark b s i)

theorem agree_foldl_marks (bs : List Imbalance) (is : List TagId) (s : Roster × List Text) :
    (bs.foldl (fun s b => is.foldl b.mark s) s).1.Agree s.1 := by
  induction bs generalizing s with
  | nil => exact .refl _
  | cons b bs ih => exact (ih _).trans (agree_foldl_mark b is s)

/-- Checking a pairing changes nothing about a tag but how it came out. -/
theorem agree_check (r : Roster) (is : List TagId) : (check r is).1.Agree r := by
  have hclear (t : Tag) : (clearError t).reset = t.reset := by
    unfold clearError
    split <;> rfl
  exact (agree_foldl_marks _ _ _).trans (.updateAll hclear _ _)

end Pairing
end LiquidMarkdown
