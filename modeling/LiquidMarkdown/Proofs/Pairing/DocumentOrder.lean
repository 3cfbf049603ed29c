import LiquidMarkdown.Proofs.Pairing.Writing

/-!
# Document order

Tags are sorted by their offsets, if all of them have one.  Where no two stand at the same place,
their order does not depend on how they were given; and tags that are left out of the list do not
change the order of the others, unless they decide whether the list is sorted at all.  This file
defines:

* `filter_mergeSort` — leaving elements out of a list and sorting it, in either order;
* `Roster.inDocumentOrder_perm_eq` — tags at different places are sorted in one way only;
* `Roster.withRole` — the tags among the given ones that have a role;
* `Roster.Undisturbed` — the tags without a role have no say in the order of the others;
* `associate_withRole` — tags without a role are not written, and can be left out of a pairing where
  they have no say.
-/

namespace LiquidMarkdown

/-! ## Stable sorting -/

section

variable {α : Type} {le : α → α → Bool} {a : α} {l₁ l₂ : List α}

/-- The place of an element in a sorted list tells the list apart into what comes before it and what
comes behind. -/
theorem takeWhile_of_split (hbefore : ∀ b ∈ l₁, (!le a b) = true)
    (hbehind : ∀ b ∈ l₂, le a b = true) :
    (l₁ ++ l₂).takeWhile (fun b => !le a b) = l₁ := by
  rw [List.takeWhile_append_of_pos hbefore]
  cases l₂ with
  | nil => rw [List.takeWhile_nil, List.append_nil]
  | cons b l₂ =>
      have hb := hbehind b List.mem_cons_self
      rw [List.takeWhile_cons_of_neg (by simp [hb]), List.append_nil]

/-- In a sorted list, one element more goes before all that it is not behind. -/
theorem exists_mergeSort_cons (trans : ∀ a b c, le a b = true → le b c = true → le a c = true)
    (total : ∀ a b, (le a b || le b a) = true) (a : α) (l : List α) :
    ∃ l₁ l₂, (a :: l).mergeSort le = l₁ ++ a :: l₂ ∧ l.mergeSort le = l₁ ++ l₂ ∧
      (∀ b ∈ l₁, (!le a b) = true) ∧ ∀ b ∈ l₂, le a b = true := by
  obtain ⟨l₁, l₂, hlong, hshort, hbefore⟩ := List.mergeSort_cons trans total a l
  have hsorted := List.pairwise_mergeSort trans total (a :: l)
  rw [hlong] at hsorted
  have hbehind := (List.pairwise_cons.1 (List.pairwise_append.1 hsorted).2.1).1
  exact ⟨l₁, l₂, hlong, hshort, hbefore, hbehind⟩

/-- Leaving elements out of a list does not change how the others are sorted, since those that are
equal in the order stay as they were given. -/
theorem filter_mergeSort (trans : ∀ a b c, le a b = true → le b c = true → le a c = true)
    (total : ∀ a b, (le a b || le b a) = true) (p : α → Bool) (l : List α) :
    (l.mergeSort le).filter p = (l.filter p).mergeSort le := by
  induction l with
  | nil => rw [List.mergeSort_nil, List.filter_nil, List.mergeSort_nil]
  | cons a l ih =>
      obtain ⟨l₁, l₂, hlong, hshort, hbefore, hbehind⟩ := exists_mergeSort_cons trans total a l
      rw [hshort, List.filter_append] at ih
      rw [hlong, List.filter_append]
      cases hp : p a with
      | false =>
          have hp' : ¬ p a = true := by rw [hp]; exact Bool.false_ne_true
          rw [List.filter_cons_of_neg hp', List.filter_cons_of_neg hp', ih]
      | true =>
          obtain ⟨m₁, m₂, hlong', hshort', hbefore', hbehind'⟩ :=
            exists_mergeSort_cons trans total a (l.filter p)
          rw [List.filter_cons_of_pos hp, List.filter_cons_of_pos hp, hlong']
          rw [hshort'] at ih
          -- The element stands at the same place, whether others were left out before or behind.
          have hfirst : l₁.filter p = m₁ := by
            calc
              l₁.filter p
                  = (l₁.filter p ++ l₂.filter p).takeWhile (fun b => !le a b) :=
                    (takeWhile_of_split (fun b hb => hbefore b (List.mem_of_mem_filter hb))
                      (fun b hb => hbehind b (List.mem_of_mem_filter hb))).symm
              _ = (m₁ ++ m₂).takeWhile (fun b => !le a b) := by rw [ih]
              _ = m₁ := takeWhile_of_split hbefore' hbehind'
          rw [hfirst] at ih ⊢
          rw [List.append_cancel_left ih]

end

/-! ## Tags at their places -/

/-- A tag that was read, at an offset of the first line if the offset is known. -/
def PlacedTag.ofText (raw : Text) (offset : Option Int) : PlacedTag where
  toTag := ({ raw := raw } : Tag).read .standard
  position := offset.map fun k => ⟨⟨1, k + 1, k⟩, ⟨1, k + 2, k + 1⟩⟩

theorem PlacedTag.settled_ofText (raw : Text) (offset : Option Int) :
    (ofText raw offset).Settled := by
  apply Tag.settled_read
  intro _ hsuccess
  cases hsuccess

namespace Roster

/-- Does one tag stand no later than another? -/
def noLater (r : Roster) (i j : TagId) : Bool :=
  (r.tag i).offset?.getD 0 ≤ (r.tag j).offset?.getD 0

variable {r : Roster} {is js : List TagId} {i j k : TagId}

theorem noLater_trans (r : Roster) (i j k : TagId) (hij : r.noLater i j = true)
    (hjk : r.noLater j k = true) : r.noLater i k = true := by
  simp only [noLater, decide_eq_true_eq] at hij hjk ⊢
  exact Int.le_trans hij hjk

theorem noLater_total (r : Roster) (i j : TagId) : (r.noLater i j || r.noLater j i) = true := by
  simp only [noLater, Bool.or_eq_true, decide_eq_true_eq]
  exact Int.le_total _ _

theorem inDocumentOrder_of_allPlaced (h : r.allPlaced is = true) :
    r.inDocumentOrder is = is.mergeSort r.noLater := by
  rw [inDocumentOrder, if_pos h]
  rfl

theorem inDocumentOrder_of_not_allPlaced (h : r.allPlaced is = false) :
    r.inDocumentOrder is = is := by
  rw [inDocumentOrder, if_neg (by rw [h]; exact Bool.false_ne_true)]

theorem allPlaced_iff : r.allPlaced is = true ↔ ∀ i ∈ is, (r.tag i).offset?.isSome = true :=
  List.all_eq_true

/-- Tags at different places are sorted in one way only. -/
theorem inDocumentOrder_perm_eq (hp : js.Perm is)
    (hplaced : ∀ i ∈ is, (r.tag i).offset?.isSome = true)
    (hdistinct : (is.map fun i => (r.tag i).offset?).Nodup) :
    r.inDocumentOrder js = r.inDocumentOrder is := by
  have hplaced' : r.allPlaced js = true :=
    allPlaced_iff.2 fun i hi => hplaced i (hp.mem_iff.1 hi)
  rw [inDocumentOrder_of_allPlaced hplaced', inDocumentOrder_of_allPlaced (allPlaced_iff.2 hplaced)]
  have hsorted (ks : List TagId) :
      (ks.mergeSort r.noLater).Pairwise fun i j => r.noLater i j = true :=
    List.pairwise_mergeSort r.noLater_trans r.noLater_total ks
  refine List.Perm.eq_of_pairwise ?_ (hsorted js) (hsorted is)
    ((List.mergeSort_perm js _).trans (hp.trans (List.mergeSort_perm is _).symm))
  intro i j hi hj hij hji
  -- Two tags neither of which stands before the other stand at the same place.
  have hi' : i ∈ is := hp.mem_iff.1 (List.mem_mergeSort.1 hi)
  have hj' : j ∈ is := List.mem_mergeSort.1 hj
  obtain ⟨a, ha⟩ := Option.isSome_iff_exists.1 (hplaced i hi')
  obtain ⟨b, hb⟩ := Option.isSome_iff_exists.1 (hplaced j hj')
  simp only [noLater, ha, hb, Option.getD_some, decide_eq_true_eq] at hij hji
  apply List.inj_on_of_nodup_map hdistinct hi' hj'
  rw [ha, hb, Int.le_antisymm hij hji]

/-! ## Tags without a role -/

/-- The tags among the given ones that have a role in blocks. -/
def withRole (r : Roster) (is : List TagId) : List TagId :=
  is.filter fun i => (r.tag i).hasBlockRole

/-- The tags without a role have no say in the order of the others: each of them has a position, or
one of the others has none, or the others are given in the order of their offsets. -/
def Undisturbed (r : Roster) (is : List TagId) : Prop :=
  (∀ i ∈ is, (r.tag i).hasBlockRole = false → (r.tag i).offset?.isSome = true) ∨
    r.allPlaced (r.withRole is) = false ∨
    (r.withRole is).Pairwise fun i j => r.noLater i j = true

instance (r : Roster) (is : List TagId) : Decidable (r.Undisturbed is) :=
  inferInstanceAs (Decidable (_ ∨ _ ∨ _))

theorem allPlaced_iff_and (r : Roster) (is : List TagId) : r.allPlaced is = true ↔
    (∀ i ∈ is, (r.tag i).hasBlockRole = false → (r.tag i).offset?.isSome = true) ∧
      r.allPlaced (r.withRole is) = true := by
  rw [allPlaced_iff, allPlaced_iff]
  constructor
  · intro h
    exact ⟨fun i hi _ => h i hi, fun i hi => h i (List.mem_of_mem_filter hi)⟩
  · rintro ⟨hothers, hroles⟩ i hi
    cases hrole : (r.tag i).hasBlockRole with
    | false => exact hothers i hi hrole
    | true => exact hroles i (List.mem_filter.2 ⟨hi, hrole⟩)

end Roster

namespace Pairing

variable {r : Roster} {is js : List TagId}

/-- Where all tags have positions, those that take part are sorted. -/
theorem participants_of_allPlaced (h : r.allPlaced is = true) :
    participants r is = (r.withRole is).mergeSort r.noLater := by
  rw [participants, Roster.inDocumentOrder_of_allPlaced h]
  exact filter_mergeSort r.noLater_trans r.noLater_total _ is

/-- Where one of the tags has no position, those that take part stay as they are given. -/
theorem participants_of_not_allPlaced (h : r.allPlaced is = false) :
    participants r is = r.withRole is := by
  rw [participants, Roster.inDocumentOrder_of_not_allPlaced h]
  rfl

/-- All of the tags that have a role take part. -/
theorem participants_withRole (r : Roster) (is : List TagId) :
    participants r (r.withRole is) = r.inDocumentOrder (r.withRole is) := by
  rw [participants, List.filter_eq_self]
  intro i hi
  exact (List.mem_filter.1 (Roster.mem_inDocumentOrder.1 hi)).2

/-- Leaving out the tags without a role leaves the others in their order where those have no say in
it, and nowhere else. -/
theorem participants_withRole_iff :
    participants r (r.withRole is) = participants r is ↔ r.Undisturbed is := by
  rw [participants_withRole]
  cases hroles : r.allPlaced (r.withRole is) with
  | false =>
      -- A tag with a role has no position, so that neither list is sorted.
      have hall : r.allPlaced is = false := by
        apply Bool.eq_false_iff.2
        intro hall
        rw [((r.allPlaced_iff_and is).1 hall).2] at hroles
        cases hroles
      rw [Roster.inDocumentOrder_of_not_allPlaced hroles, participants_of_not_allPlaced hall]
      exact iff_of_true rfl (.inr (.inl hroles))
  | true =>
      rw [Roster.inDocumentOrder_of_allPlaced hroles]
      cases hall : r.allPlaced is with
      | true =>
          rw [participants_of_allPlaced hall]
          exact iff_of_true rfl (.inl ((r.allPlaced_iff_and is).1 hall).1)
      | false =>
          -- The list is left as it is, and the part of it that is sorted must be in order already.
          rw [participants_of_not_allPlaced hall]
          constructor
          · intro hsorted
            refine .inr (.inr ?_)
            rw [← hsorted]
            exact List.pairwise_mergeSort r.noLater_trans r.noLater_total _
          · rintro (hothers | hunplaced | hordered)
            · rw [(r.allPlaced_iff_and is).2 ⟨hothers, hroles⟩] at hall
              cases hall
            · rw [hroles] at hunplaced
              cases hunplaced
            · exact List.mergeSort_of_pairwise hordered

/-- A pairing is determined by the tags that take part, in their order. -/
theorem associate_congr_participants (T : TagTables) (ids : IdSource)
    (h : participants r js = participants r is) : associate T ids r js = associate T ids r is := by
  rw [associate_eq_paired, associate_eq_paired, fresh, fresh, h]

/-- Tags without a role are never written.  Leaving them out of a pairing leaves the other tags in
their order where they have no say in it, and nowhere else; and there the whole pairing is the same
without them.  Where they have a say, the other tags are paired in the order in which they are
given. -/
theorem associate_withRole (T : TagTables) (ids : IdSource) (r : Roster) (is : List TagId) :
    (∀ i, (r.tag i).hasBlockRole = false → (associate T ids r is).1.tag i = r.tag i) ∧
      (participants r (r.withRole is) = participants r is ↔ r.Undisturbed is) ∧
      (r.Undisturbed is → associate T ids r (r.withRole is) = associate T ids r is) ∧
      (¬ r.Undisturbed is → participants r is = r.withRole is) := by
  refine ⟨?_, participants_withRole_iff, ?_, ?_⟩
  · intro i hi
    exact tag_associate_of_bystander T ids is hi
  · intro h
    exact associate_congr_participants T ids (participants_withRole_iff.2 h)
  · intro h
    apply participants_of_not_allPlaced
    apply Bool.eq_false_iff.2
    intro hall
    exact h (.inl ((r.allPlaced_iff_and is).1 hall).1)

/-- A closing tag, its opening tag, which stands before it, and an assignment of which no position
is known. -/
def unplacedAssignment : Roster :=
  [.ofText "{% endif %}" (some 20), .ofText "{% if a %}" (some 0),
    .ofText "{% assign x = 1 %}" none]

/-- The assignment can be left out where the tags are given in their order, and not where they are
given the other way round: without it they are sorted and paired, and with it they are not. -/
theorem associate_withRole_unplacedAssignment :
    associate .standard {} unplacedAssignment [1, 0] =
        associate .standard {} unplacedAssignment [1, 2, 0] ∧
      participants unplacedAssignment [0, 1] ≠ participants unplacedAssignment [0, 1, 2] ∧
      (associate .standard {} unplacedAssignment [0, 1]).2.1.orphans = [] ∧
      (associate .standard {} unplacedAssignment [0, 1, 2]).2.1.orphans = [0] := by
  have hsame : associate .standard {} unplacedAssignment [1, 0] =
      associate .standard {} unplacedAssignment [1, 2, 0] := by
    have hroles : unplacedAssignment.withRole [1, 2, 0] = [1, 0] := by decide +kernel
    have horder : unplacedAssignment.Undisturbed [1, 2, 0] := by decide +kernel
    have hwithout := (associate_withRole .standard {} unplacedAssignment [1, 2, 0]).2.2.1 horder
    rwa [hroles] at hwithout
  have hsorted : associate .standard {} unplacedAssignment [0, 1] =
      associate .standard {} unplacedAssignment [1, 0] := by
    have hperm : ([0, 1] : List TagId).Perm [1, 0] := by decide
    have horder := Roster.inDocumentOrder_perm_eq (r := unplacedAssignment) hperm
      (by decide +kernel) (by decide +kernel)
    apply associate_congr_participants
    rw [participants, participants, horder]
  refine ⟨hsame, ?_, ?_, by decide +kernel⟩
  · have hroles : unplacedAssignment.withRole [0, 1, 2] = [0, 1] := by decide +kernel
    have horder : ¬ unplacedAssignment.Undisturbed [0, 1, 2] := by decide +kernel
    have hiff := (associate_withRole .standard {} unplacedAssignment [0, 1, 2]).2.1
    rw [hroles] at hiff
    intro hparticipants
    exact horder (hiff.1 hparticipants)
  · -- What is not sorted can be evaluated.
    rw [hsorted, hsame]
    decide +kernel

end Pairing
end LiquidMarkdown
