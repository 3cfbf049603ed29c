import LiquidMarkdown.Proofs.Pairing.Outcome

/-!
# Checking what was paired

The check of a pairing counts opening and closing tags, and marks the tags of the larger side that
have no partner.  Behind a pairing there is nothing to mark.  This file states:

* `Roster.update_eq_self`, `Roster.updateAll_eq_self` — a change that changes no tag;
* `Tag.Settled` — a tag that was read keeps no error;
* `Associated.error_of_fault?` — whatever the check could mark carries the message already;
* `Associated.check_eq` — the check leaves a pairing as it is, and adds no message;
* `check_associate_read` — so it is with any tags that were read before.
-/

namespace LiquidMarkdown

/-! ## Changes that change nothing -/

namespace Roster

theorem update_eq_self {r : Roster} {i : TagId} {f : Tag → Tag}
    (h : (r.tag i).mapTag f = r.tag i) : r.update i f = r := by
  -- Only the tag of that number could differ, and it is the same.
  apply List.ext_getElem?
  intro j
  rw [update, List.getElem?_modify]
  cases hj : r[j]? with
  | none => rfl
  | some t =>
      by_cases hij : i = j
      · subst hij
        have ht : r.tag i = t := by simp [tag, List.getD_eq_getElem?_getD, hj]
        rw [ht] at h
        simp [h]
      · simp [hij]

theorem updateAll_eq_self {r : Roster} {is : List TagId} {f : Tag → Tag}
    (h : ∀ i ∈ is, (r.tag i).mapTag f = r.tag i) : r.updateAll is f = r := by
  induction is with
  | nil => rfl
  | cons i is ih =>
      have hi : r.update i f = r := update_eq_self (h i List.mem_cons_self)
      have hrest := ih fun j hj => h j (List.mem_cons_of_mem _ hj)
      change (r.update i f).updateAll is f = r
      rw [hi, hrest]

end Roster

/-- A tag that was read keeps no error. -/
def Tag.Settled (t : Tag) : Prop :=
  t.isSuccess = true → t.error = none

theorem Tag.Settled.of_decided {t : Tag} (h : t.Decided) : t.Settled := by
  intro hsuccess
  cases h with
  | success _ he => exact he
  | failed ho _ _ => simp [Construct.isSuccess, ho] at hsuccess

/-- A tag that was read keeps no error if it could be read. -/
theorem Tag.settled_read (T : TagTables) {t : Tag} (h : t.raw = [] → t.Settled) :
    (t.read T).Settled := by
  unfold read
  split
  · next hraw => exact h hraw
  · dsimp only
    split
    · intro hsuccess
      cases hsuccess
    · split
      · intro _
        rfl
      · intro hsuccess
        cases hsuccess

namespace Pairing

variable {T : TagTables} {r r₀ r' : Roster} {ps is : List TagId} {res : Result}

theorem settled_fresh {i : TagId} (h : (r.tag i).Settled) : ((fresh r is).tag i).Settled := by
  unfold fresh
  generalize participants r is = ps
  -- A tag that was reset counts as not read, so nothing is asked of its error.
  induction ps generalizing r with
  | nil => exact h
  | cons p ps ih =>
      apply ih
      rw [Roster.tag_update]
      split
      · intro _
        rfl
      · exact h

theorem clearError_eq_self {t : Tag} (h : t.Settled) : clearError t = t := by
  unfold clearError
  split
  · next hc =>
      have hsuccess : t.isSuccess = true := by
        rw [Bool.and_eq_true] at hc
        exact hc.1
      have herror : t.error = none := h hsuccess
      rw [← herror]
  · rfl

/-- A fold whose steps leave the state leaves it. -/
theorem foldl_eq_self {α β : Type} {f : β → α → β} {s : β} {as : List α}
    (h : ∀ a ∈ as, f s a = s) : as.foldl f s = s := by
  induction as with
  | nil => rfl
  | cons a as ih =>
      rw [List.foldl_cons, h a List.mem_cons_self]
      exact ih fun b hb => h b (List.mem_cons_of_mem _ hb)

/-! ## Partners -/

/-- The opening tag of a frame that was closed has a partner. -/
theorem hasEndPartner_of_closed {f : Frame} (h : f.Closed T r r₀ ps r') (ha : r'.Agree r) :
    hasEndPartner r' f.start = true := by
  have hsettled := Frame.settled (.inr h)
  rcases h with ⟨conts, j, hc, _⟩
  have hj : j ∈ f.others := by
    rw [hc.others_eq']
    exact List.mem_append_right _ List.mem_cons_self
  have hend : (r'.tag j).isEnd = true := (ha.isEnd j).trans (hc.stop_isEnd j rfl)
  have hmatching : (r'.tag j).matchingId = some f.id := by
    rw [hsettled.other j hj]
    rfl
  simp only [hasEndPartner, hsettled.blockId, hsettled.related, Option.isSome_some, Bool.true_and]
  exact List.any_eq_true.2 ⟨j, hj, by simp [hend, hmatching]⟩

/-- Every other tag of a frame has a partner. -/
theorem hasStartPartner_of_settled {f : Frame} (h : f.Settled T r r₀ ps r') (ha : r'.Agree r)
    {k : TagId} (hk : k ∈ f.others) : hasStartPartner r' k = true := by
  have hstart : (r'.tag f.start).isStart = true :=
    (ha.isStart _).trans (Roster.opens_iff.1 h.opens).1
  have hmatching : (r'.tag k).matchingId = some f.id := by
    rw [h.other k hk]
    rfl
  have hrelated : (r'.tag k).related = [f.start] := by
    rw [h.other k hk]
    rfl
  simp [hasStartPartner, hmatching, hrelated, hstart, h.blockId]

/-! ## The check -/

namespace Associated

/-- Whatever the check could mark carries the message already. -/
theorem error_of_fault? (h : Associated T r r₀ ps r' res)
    (hr : ∀ i ∈ ps, (r.tag i).SingleRole) {i : TagId} (hi : i ∈ ps) {b : Imbalance} {f : Fault}
    (hf : b.fault? r' i = some f) : (r'.tag i).error = some f.message := by
  have hname : (r'.tag i).name = (r.tag i).name := h.agree.name i
  simp only [Imbalance.fault?] at hf
  split at hf
  · -- An opening tag without a partner was never closed.
    split at hf
    · next hc =>
        cases hf
        simp only [Bool.and_eq_true, decide_eq_true_eq, Bool.not_eq_true'] at hc
        have hs : (r.tag i).isStart = true := (h.agree.isStart i).symm.trans hc.1.1
        rcases h.exists_frame hi hs with ⟨g, rfl, hg | hg⟩
        · have hopens := Roster.opens_iff.1 (Frame.settled (.inl hg)).opens
          rcases hg with ⟨conts, _, hstart, _⟩
          rw [hstart, ← hc.1.2, hname, hopens.2]
          rfl
        · rw [hasEndPartner_of_closed hg h.agree] at hc
          cases hc.2
    · cases hf
  · -- A closing tag without a partner is an orphan.
    split at hf
    · next hc =>
        cases hf
        simp only [Bool.and_eq_true, decide_eq_true_eq, Bool.not_eq_true'] at hc
        have he : (r.tag i).isEnd = true := (h.agree.isEnd i).symm.trans hc.1.1
        have hs : (r.tag i).isStart = false := ((hr i hi).of_isEnd he).1
        have hrole : (r.tag i).hasBlockRole = true := Tag.hasBlockRole_of_isEnd he
        rcases h.settled_or_orphaned hi hs hrole with ⟨g, hg, hother⟩ | ho
        · rw [hasStartPartner_of_settled hg h.agree hother] at hc
          cases hc.2
        · rw [hname, ho.written, Tag.fault_of_isEnd he]
          rfl
    · cases hf

/-- A tag that takes part is settled behind a pairing, and so is another one if it was. -/
theorem settled (h : Associated T r r₀ ps r' res) {i : TagId} (hr₀ : (r₀.tag i).Settled) :
    (r'.tag i).Settled := by
  by_cases hpart : i ∈ ps ∧ (r.tag i).hasBlockRole = true
  · exact .of_decided (h.decided hpart.1 hpart.2)
  · have hsame : r'.tag i = r₀.tag i := by
      apply h.untouched i
      intro hi
      exact Bool.eq_false_iff.2 fun hrole => hpart ⟨hi, hrole⟩
    rw [hsame]
    exact hr₀

/-- The check leaves a pairing as it is, and adds no message. -/
theorem check_eq (h : Associated T r r₀ ps r' res) (hr : ∀ i ∈ ps, (r.tag i).SingleRole)
    (hr₀ : ∀ i ∈ is, (r₀.tag i).Settled) (his : ∀ i ∈ is, i ∈ ps) : check r' is = (r', []) := by
  have hclear : r'.updateAll is clearError = r' := by
    apply Roster.updateAll_eq_self
    intro i hi
    have hsettled : (r'.tag i).Settled := h.settled (hr₀ i hi)
    simp only [PlacedTag.mapTag, clearError_eq_self hsettled]
  have hmark (b : Imbalance) (i : TagId) (hi : i ∈ is) : b.mark (r', []) i = (r', []) := by
    unfold Imbalance.mark
    cases hf : b.fault? r' i with
    | none => rfl
    | some f =>
        have herror := h.error_of_fault? hr (his i hi) hf
        simp [herror]
  simp only [check, hclear]
  exact foldl_eq_self fun b _ => foldl_eq_self fun i hi => hmark b i hi

end Associated

/-! ## Tags that were read -/

/-- Tags are read and paired, in whatever order they are given and wherever they stand.  Behind this
the check leaves all of them as they are, and adds no message. -/
theorem check_associate_read (T T' : TagTables) (ids : IdSource) (hn : is.Nodup)
    (hlt : ∀ i ∈ is, i < r.length)
    (hraw : ∀ i ∈ is, (r.tag i).raw = [] → (r.tag i).SingleRole ∧ (r.tag i).Settled) :
    check (associate T' ids (r.map (PlacedTag.mapTag (Tag.read T))) is).1 is =
      ((associate T' ids (r.map (PlacedTag.mapTag (Tag.read T))) is).1, []) := by
  have htag (i : TagId) : Roster.tag (r.map (PlacedTag.mapTag (Tag.read T))) i =
      (r.tag i).mapTag (Tag.read T) := Roster.tag_map rfl r i
  have hlength : (r.map (PlacedTag.mapTag (Tag.read T))).length = r.length := List.length_map _
  generalize r.map (PlacedTag.mapTag (Tag.read T)) = s at htag hlength
  have hrole (i : TagId) (hi : i ∈ is) : (Roster.tag s i).SingleRole := by
    rw [htag i]
    by_cases hnil : (r.tag i).raw = []
    · -- Reading leaves a tag without a text as it is.
      have hread : (r.tag i).toTag.read T = (r.tag i).toTag := by
        rw [Tag.read, if_pos hnil]
      change ((r.tag i).toTag.read T).SingleRole
      rw [hread]
      exact (hraw i hi hnil).1
    · exact (Tag.prepared_read T fun h => absurd h hnil).singleRole
  have hsettled (i : TagId) (hi : i ∈ is) : (Roster.tag s i).Settled := by
    rw [htag i]
    exact Tag.settled_read T fun hnil => (hraw i hi hnil).2
  have hassociated := associated_of_singleRole (T := T') ids hn
    (fun i hi => hlength ▸ hlt i hi) hrole
  apply hassociated.check_eq
  · intro i hi
    exact hrole i (Roster.mem_inDocumentOrder.1 hi)
  · intro i hi
    exact settled_fresh (hsettled i hi)
  · intro i hi
    exact Roster.mem_inDocumentOrder.2 hi

/-- Tags out of order: two blocks of a type, only one of them closed, and tags that close nothing.
-/
def scattered : Roster :=
  [("{% endif %}", 30), ("{% if a %}", 0), ("{% if b %}", 10), ("{% endfor %}", 20),
    ("{% endfor %}", 40), ("{% for c in d %}", 15)].map fun e =>
      { raw := e.1, position := some ⟨⟨1, e.2 + 1, e.2⟩, ⟨1, e.2 + 2, e.2 + 1⟩⟩ }

theorem check_associate_read_scattered :
    ([0, 1, 2, 3, 4, 5] : List TagId).Nodup ∧ (∀ i ∈ [0, 1, 2, 3, 4, 5], i < scattered.length) ∧
      (∀ i ∈ [0, 1, 2, 3, 4, 5], (scattered.tag i).raw = [] →
        (scattered.tag i).SingleRole ∧ (scattered.tag i).Settled) ∧
      check (associate .standard {} (scattered.map (PlacedTag.mapTag (Tag.read .standard)))
        [0, 1, 2, 3, 4, 5]).1 [0, 1, 2, 3, 4, 5] =
        ((associate .standard {} (scattered.map (PlacedTag.mapTag (Tag.read .standard)))
          [0, 1, 2, 3, 4, 5]).1, []) := by
  have hnodup : ([0, 1, 2, 3, 4, 5] : List TagId).Nodup := by decide
  have hlt : ∀ i ∈ [0, 1, 2, 3, 4, 5], i < scattered.length := by decide
  have hraw : ∀ i ∈ [0, 1, 2, 3, 4, 5], (scattered.tag i).raw = [] →
      (scattered.tag i).SingleRole ∧ (scattered.tag i).Settled := by
    have hne : ∀ i ∈ [0, 1, 2, 3, 4, 5], (scattered.tag i).raw ≠ [] := by decide
    intro i hi hnil
    exact absurd hnil (hne i hi)
  exact ⟨hnodup, hlt, hraw, check_associate_read .standard .standard {} hnodup hlt hraw⟩

end Pairing
end LiquidMarkdown
