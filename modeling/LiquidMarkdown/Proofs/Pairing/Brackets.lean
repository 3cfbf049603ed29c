import Mathlib.Data.List.Infix
import Mathlib.Data.List.Nodup

/-!
# Bracket matching

Words over letters some of which open a bracket and some of which close one.  This file defines:

* `Brackets` — which letters open and which close;
* `Brackets.Balanced` — a word that closes what it opens, and nothing else;
* `Brackets.balanced_map_iff` — renaming letters keeps words balanced;
* `Brackets.Matches` — a closing letter belongs to an opening letter;
* `Brackets.opened` — the letters that are open behind a word, the innermost first;
* `Brackets.opened_eq_cons_iff` — the innermost open letter is followed by a balanced word;
* `Brackets.mem_opened_iff` — a letter stays open if no letter matches it;
* `Brackets.head?_opened_iff` — the innermost open letter is the last one that is not matched.
-/

namespace LiquidMarkdown

/-- Which letters open a bracket and which close one; no letter does both. -/
structure Brackets (α : Type) where
  opens : α → Bool
  closes : α → Bool
  disjoint : ∀ a, opens a = true → closes a = false

namespace Brackets

variable {α : Type} (b : Brackets α) {u v w : List α} {i j : α}

/-! ## Balanced words -/

/-- The word opens as many brackets as it closes, and no beginning of it closes more than it
opens. -/
def Balanced (w : List α) : Prop :=
  w.countP b.opens = w.countP b.closes ∧
    ∀ u, u <+: w → u.countP b.closes ≤ u.countP b.opens

instance (w : List α) : Decidable (b.Balanced w) :=
  decidable_of_iff (w.countP b.opens = w.countP b.closes ∧
    ∀ u ∈ w.inits, u.countP b.closes ≤ u.countP b.opens) (by
      simp only [List.mem_inits, Balanced])

/-- The closing letter `j` belongs to the opening letter `i`: what stands between them is
balanced. -/
def Matches (w : List α) (i j : α) : Prop :=
  ∃ pre mid post, w = pre ++ i :: (mid ++ j :: post) ∧ b.opens i = true ∧ b.closes j = true ∧
    b.Balanced mid

theorem Matches.opens {b : Brackets α} (h : b.Matches w i j) : b.opens i = true := by
  rcases h with ⟨_, _, _, _, ho, _, _⟩
  exact ho

theorem Matches.closes {b : Brackets α} (h : b.Matches w i j) : b.closes j = true := by
  rcases h with ⟨_, _, _, _, _, hc, _⟩
  exact hc

namespace Balanced

variable {b}

theorem nil : b.Balanced [] := by
  refine ⟨rfl, ?_⟩
  intro u hu
  rw [List.prefix_nil.1 hu]
  exact Nat.le_refl _

theorem append (hu : b.Balanced u) (hv : b.Balanced v) : b.Balanced (u ++ v) := by
  refine ⟨by rw [List.countP_append, List.countP_append, hu.1, hv.1], ?_⟩
  intro p hp
  rcases hp with ⟨q, hq⟩
  rcases List.append_eq_append_iff.1 hq with ⟨r, rfl, _⟩ | ⟨r, rfl, hr⟩
  · exact hu.2 p (List.prefix_append p r)
  · -- The beginning goes beyond the first word.
    have hle := hv.2 r ⟨q, hr.symm⟩
    rw [List.countP_append, List.countP_append, hu.1]
    omega

/-- A letter that neither opens nor closes is balanced. -/
theorem singleton (ho : b.opens i = false) (hc : b.closes i = false) : b.Balanced [i] := by
  refine ⟨by simp [ho, hc], ?_⟩
  intro u hu
  rcases List.prefix_cons_iff.1 hu with rfl | ⟨v, rfl, hv⟩
  · exact Nat.le_refl _
  · rw [List.prefix_nil.1 hv]
    simp [hc]

/-- A balanced word between an opening and a closing letter is balanced with them. -/
theorem wrap (hu : b.Balanced u) (ho : b.opens i = true) (hc : b.closes j = true) :
    b.Balanced (i :: (u ++ [j])) := by
  have hi : b.closes i = false := b.disjoint i ho
  have hj : b.opens j = false := by
    cases hj : b.opens j with
    | false => rfl
    | true => exact absurd hc (by rw [b.disjoint j hj]; exact Bool.false_ne_true)
  constructor
  · simp only [List.countP_cons, List.countP_append, List.countP_nil, ho, hc, hi, hj, hu.1]
    simp
  · intro p hp
    rcases List.prefix_cons_iff.1 hp with rfl | ⟨q, rfl, hq⟩
    · exact Nat.le_refl _
    · rw [List.countP_cons_of_pos ho,
        List.countP_cons_of_neg (by rw [hi]; exact Bool.false_ne_true)]
      rcases List.prefix_concat_iff.1 hq with rfl | hq
      · simp [List.countP_append, hc, hj, hu.1]
      · have := hu.2 q hq
        omega

end Balanced

/-- Letters may be renamed, where what opens and closes stays so. -/
theorem balanced_map_iff {β : Type} {b : Brackets α} {b' : Brackets β} {f : α → β}
    (ho : ∀ a ∈ w, b'.opens (f a) = b.opens a) (hc : ∀ a ∈ w, b'.closes (f a) = b.closes a) :
    b'.Balanced (w.map f) ↔ b.Balanced w := by
  -- Every beginning has as many brackets of each kind as its image.
  have hcount {u : List α} (hu : u ⊆ w) : (u.map f).countP b'.opens = u.countP b.opens ∧
      (u.map f).countP b'.closes = u.countP b.closes := by
    rw [List.countP_map, List.countP_map]
    constructor
    · exact List.countP_congr fun a ha => by simp [ho a (hu ha)]
    · exact List.countP_congr fun a ha => by simp [hc a (hu ha)]
  have hw := hcount (List.Subset.refl w)
  constructor
  · rintro ⟨hcounts, hprefix⟩
    refine ⟨by rw [← hw.1, ← hw.2, hcounts], ?_⟩
    intro u hu
    have hle := hprefix (u.map f) (hu.map f)
    rwa [(hcount hu.subset).1, (hcount hu.subset).2] at hle
  · rintro ⟨hcounts, hprefix⟩
    refine ⟨by rw [hw.1, hw.2, hcounts], ?_⟩
    intro v hv
    rcases List.prefix_map_iff.1 hv with ⟨u, hu, rfl⟩
    rw [(hcount hu.subset).1, (hcount hu.subset).2]
    exact hprefix u hu

/-! ## Open letters -/

/-- The open letters behind one letter more. -/
def next (open_ : List α) (a : α) : List α :=
  if b.opens a then a :: open_ else if b.closes a then open_.tail else open_

/-- The letters that are open behind a word, the innermost first.  A letter that closes where
nothing is open is passed over. -/
def opened (w : List α) : List α :=
  w.foldl b.next []

variable {b}

theorem opened_concat (w : List α) (a : α) : b.opened (w ++ [a]) = b.next (b.opened w) a := by
  rw [opened, List.foldl_append]
  rfl

theorem next_of_opens {open_ : List α} (h : b.opens i = true) : b.next open_ i = i :: open_ := by
  rw [next, if_pos h]

theorem next_of_closes {open_ : List α} (h : b.closes i = true) : b.next open_ i = open_.tail := by
  have ho : ¬ b.opens i = true := fun ho => by
    rw [b.disjoint i ho] at h
    cases h
  rw [next, if_neg ho, if_pos h]

theorem next_of_neither {open_ : List α} (ho : b.opens i = false) (hc : b.closes i = false) :
    b.next open_ i = open_ := by
  rw [next, ho, hc]
  rfl

/-- Where no beginning of a word closes more than it opens, what was open before stays open. -/
theorem exists_foldl_next_eq (open_ : List α)
    (h : ∀ u, u <+: w → u.countP b.closes ≤ u.countP b.opens) :
    ∃ inner, w.foldl b.next open_ = inner ++ open_ ∧
      inner.length + w.countP b.closes = w.countP b.opens := by
  induction w using List.reverseRecOn with
  | nil => exact ⟨[], rfl, rfl⟩
  | append_singleton w a ih =>
      rcases ih fun u hu => h u (hu.trans (List.prefix_append _ _)) with ⟨inner, hinner, hlen⟩
      have hw := h (w ++ [a]) (List.prefix_refl _)
      rw [List.countP_append, List.countP_append] at hw ⊢
      rw [List.foldl_append, hinner, List.foldl_cons, List.foldl_nil]
      cases ho : b.opens a with
      | true =>
          have hc := b.disjoint a ho
          refine ⟨a :: inner, by rw [next_of_opens ho, List.cons_append], ?_⟩
          simp only [List.length_cons, List.countP_cons, List.countP_nil, ho, hc]
          simp
          omega
      | false =>
          cases hc : b.closes a with
          | true =>
              -- The word before it has opened something, so something is there to be closed.
              simp only [List.countP_cons, List.countP_nil, ho, hc] at hw ⊢
              cases inner with
              | nil =>
                  simp at hw hlen
                  omega
              | cons x inner =>
                  refine ⟨inner, by rw [next_of_closes hc]; rfl, ?_⟩
                  simp at hlen ⊢
                  omega
          | false =>
              refine ⟨inner, next_of_neither ho hc, ?_⟩
              simp only [List.countP_cons, List.countP_nil, ho, hc]
              simpa using hlen

/-- A balanced word leaves open what was open before. -/
theorem Balanced.foldl_next (h : b.Balanced w) (open_ : List α) :
    w.foldl b.next open_ = open_ := by
  rcases exists_foldl_next_eq open_ h.2 with ⟨inner, he, hlen⟩
  have hnil : inner = [] := by
    rw [h.1] at hlen
    exact List.length_eq_zero_iff.1 (by omega)
  rw [he, hnil, List.nil_append]

theorem opened_append_cons (pre : List α) (ho : b.opens i = true) (h : b.Balanced w) :
    b.opened (pre ++ i :: w) = i :: b.opened pre := by
  rw [opened, List.foldl_append, List.foldl_cons, next_of_opens ho, h.foldl_next, opened]

/-- The innermost open letter is followed by a balanced word, and the others are those that were
open before it. -/
theorem opened_eq_cons_iff {open_ : List α} :
    b.opened w = i :: open_ ↔
      ∃ pre mid, w = pre ++ i :: mid ∧ b.opens i = true ∧ b.Balanced mid ∧
        b.opened pre = open_ := by
  constructor
  · -- By strong induction, since a closing letter is led back to the letter that it closes.
    intro h
    induction hn : w.length using Nat.strongRecOn generalizing w i open_ with
    | ind n ih =>
      cases w using List.reverseRecOn with
      | nil => cases h
      | append_singleton w a =>
          rw [List.length_append, List.length_singleton] at hn
          rw [opened_concat] at h
          cases ho : b.opens a with
          | true =>
              rw [next_of_opens ho] at h
              cases h
              exact ⟨w, [], rfl, ho, .nil, rfl⟩
          | false =>
              cases hc : b.closes a with
              | false =>
                  rw [next_of_neither ho hc] at h
                  rcases ih _ (by omega) h rfl with ⟨pre, mid, rfl, hi, hmid, hpre⟩
                  exact ⟨pre, mid ++ [a], by simp, hi, hmid.append (.singleton ho hc), hpre⟩
              | true =>
                  rw [next_of_closes hc] at h
                  cases hw : b.opened w with
                  | nil =>
                      rw [hw] at h
                      cases h
                  | cons x rest =>
                      rw [hw] at h
                      cases h
                      -- The closing letter closes `x`, and `i` was the innermost letter before `x`
                      -- was opened.
                      rcases ih _ (by omega) hw rfl with ⟨pre, mid, rfl, hx, hmid, hpre⟩
                      rw [List.length_append, List.length_cons] at hn
                      rcases ih _ (by omega) hpre rfl with ⟨pre', mid', rfl, hi, hmid', hpre'⟩
                      refine ⟨pre', mid' ++ x :: (mid ++ [a]), by simp, hi, ?_, hpre'⟩
                      exact hmid'.append (hmid.wrap hx hc)
  · rintro ⟨pre, mid, rfl, hi, hmid, rfl⟩
    exact opened_append_cons pre hi hmid

/-- A closing letter matches the letter that is innermost before it. -/
theorem matches_iff :
    b.Matches w i j ↔
      ∃ pre post, w = pre ++ j :: post ∧ b.closes j = true ∧ (b.opened pre).head? = some i := by
  constructor
  · rintro ⟨pre, mid, post, rfl, ho, hc, hmid⟩
    refine ⟨pre ++ i :: mid, post, by simp, hc, ?_⟩
    rw [opened_append_cons pre ho hmid]
    rfl
  · rintro ⟨pre, post, rfl, hc, hhead⟩
    rcases List.head?_eq_some_iff.1 hhead with ⟨rest, hrest⟩
    rcases opened_eq_cons_iff.1 hrest with ⟨pre', mid, rfl, ho, hmid, _⟩
    exact ⟨pre', mid, post, by simp, ho, hc, hmid⟩

/-! ## Letters that stay open -/

/-- A letter of a word without repetitions stands in one place only. -/
theorem eq_of_split {pre post pre' post' : List α} (hn : w.Nodup) (h : w = pre ++ i :: post)
    (h' : w = pre' ++ i :: post') : pre = pre' ∧ post = post' := by
  have hnot {p q : List α} (hw : w = p ++ i :: q) : i ∉ p ∧ i ∉ q := by
    rw [hw, List.nodup_middle, List.nodup_cons, List.mem_append, not_or] at hn
    exact hn.1
  have hinj := (List.append_cons_inj_of_notMem (hnot h).1 (hnot h).2).1 (h.symm.trans h')
  exact ⟨hinj.1, hinj.2.2⟩

theorem mem_next {open_ : List α} {a : α} (h : i ∈ b.next open_ a) : i ∈ open_ ∨ i = a := by
  unfold next at h
  split at h
  · rcases List.mem_cons.1 h with rfl | h
    · exact .inr rfl
    · exact .inl h
  · split at h
    · exact .inl (List.mem_of_mem_tail h)
    · exact .inl h

theorem mem_foldl_next {open_ : List α} (h : i ∈ w.foldl b.next open_) : i ∈ open_ ∨ i ∈ w := by
  induction w generalizing open_ with
  | nil => exact .inl h
  | cons a w ih =>
      rcases ih h with h | h
      · rcases mem_next h with h | rfl
        · exact .inl h
        · exact .inr List.mem_cons_self
      · exact .inr (List.mem_cons_of_mem _ h)

theorem mem_of_mem_opened (h : i ∈ b.opened w) : i ∈ w :=
  (mem_foldl_next h).resolve_left List.not_mem_nil

/-- A letter that matched is no longer open. -/
theorem notMem_opened_of_matches (hn : w.Nodup) (h : b.Matches w i j) : i ∉ b.opened w := by
  rcases h with ⟨pre, mid, post, rfl, ho, hc, hmid⟩
  intro hi
  have hclosed : b.opened (pre ++ i :: (mid ++ j :: post)) =
      post.foldl b.next (b.opened pre) := by
    have he : pre ++ i :: (mid ++ j :: post) = ((pre ++ i :: mid) ++ [j]) ++ post := by simp
    rw [he, opened, List.foldl_append, ← opened, opened_concat, opened_append_cons pre ho hmid,
      next_of_closes hc, List.tail_cons]
  rw [hclosed] at hi
  have hrest := (List.nodup_middle.1 hn)
  have hnot := (List.nodup_cons.1 hrest).1
  rcases mem_foldl_next hi with hi | hi
  · exact hnot (List.mem_append_left _ (mem_of_mem_opened hi))
  · exact hnot (List.mem_append_right _ (List.mem_append_right _ (List.mem_cons_of_mem _ hi)))

theorem Matches.append (h : b.Matches w i j) (v : List α) : b.Matches (w ++ v) i j := by
  rcases h with ⟨pre, mid, post, rfl, ho, hc, hmid⟩
  exact ⟨pre, mid, post ++ v, by simp, ho, hc, hmid⟩

/-- An opening letter that is not open any more was matched. -/
theorem exists_matches_of_notMem_opened (hi : i ∈ w) (ho : b.opens i = true)
    (h : i ∉ b.opened w) : ∃ j, b.Matches w i j := by
  induction w using List.reverseRecOn with
  | nil => cases hi
  | append_singleton w a ih =>
      rw [opened_concat] at h
      by_cases hia : i = a
      · subst hia
        rw [next_of_opens ho] at h
        exact absurd List.mem_cons_self h
      · have hw : i ∈ w := by simpa [hia] using hi
        by_cases hopen : i ∈ b.opened w
        · -- The last letter has closed it, so it was the innermost one.
          cases hoa : b.opens a with
          | true =>
              rw [next_of_opens hoa] at h
              exact absurd (List.mem_cons_of_mem _ hopen) h
          | false =>
              cases hca : b.closes a with
              | false =>
                  rw [next_of_neither hoa hca] at h
                  exact absurd hopen h
              | true =>
                  rw [next_of_closes hca] at h
                  rcases List.exists_cons_of_ne_nil (List.ne_nil_of_mem hopen) with ⟨x, rest, hrest⟩
                  rw [hrest] at hopen h
                  rcases List.mem_cons.1 hopen with rfl | hopen
                  · refine ⟨a, matches_iff.2 ⟨w, [], rfl, hca, ?_⟩⟩
                    rw [hrest]
                    rfl
                  · exact absurd hopen h
        · rcases ih hw hopen with ⟨j, hj⟩
          exact ⟨j, hj.append [a]⟩

/-- An opening letter stays open if no letter matches it. -/
theorem mem_opened_iff (hn : w.Nodup) (hi : i ∈ w) (ho : b.opens i = true) :
    i ∈ b.opened w ↔ ¬ ∃ j, b.Matches w i j := by
  constructor
  · rintro h ⟨j, hj⟩
    exact notMem_opened_of_matches hn hj h
  · intro h
    exact Classical.byContradiction fun hc => h (exists_matches_of_notMem_opened hi ho hc)

variable (b) in
/-- The letter is the last one of a word that opens and is not matched. -/
def LatestOpen (w : List α) (i : α) : Prop :=
  ∃ pre mid, w = pre ++ i :: mid ∧ b.opens i = true ∧ (¬ ∃ j, b.Matches w i j) ∧
    ∀ i' ∈ mid, b.opens i' = true → ∃ j, b.Matches w i' j

/-- The innermost open letter is the last one that opens and is not matched. -/
theorem head?_opened_iff (hn : w.Nodup) : (b.opened w).head? = some i ↔ b.LatestOpen w i := by
  constructor
  · intro h
    rcases List.head?_eq_some_iff.1 h with ⟨rest, hrest⟩
    rcases opened_eq_cons_iff.1 hrest with ⟨pre, mid, rfl, ho, hmid, rfl⟩
    have hi : i ∈ pre ++ i :: mid := List.mem_append_right _ List.mem_cons_self
    refine ⟨pre, mid, rfl, ho, (mem_opened_iff hn hi ho).1 ?_, ?_⟩
    · rw [hrest]
      exact List.mem_cons_self
    · intro i' hi' ho'
      refine exists_matches_of_notMem_opened (List.mem_append_right _ (List.mem_cons_of_mem _ hi'))
        ho' ?_
      intro hopen
      rcases List.nodup_append.1 hn with ⟨_, hcons, hdisjoint⟩
      rw [hrest] at hopen
      rcases List.mem_cons.1 hopen with rfl | hopen
      · exact (List.nodup_cons.1 hcons).1 hi'
      · exact hdisjoint _ (mem_of_mem_opened hopen) _ (List.mem_cons_of_mem _ hi') rfl
  · rintro ⟨pre, mid, hw, ho, hopen, hlater⟩
    have hi : i ∈ w := by
      rw [hw]
      exact List.mem_append_right _ List.mem_cons_self
    have hmem := (mem_opened_iff hn hi ho).2 hopen
    rcases List.exists_cons_of_ne_nil (List.ne_nil_of_mem hmem) with ⟨x, rest, hrest⟩
    rw [hrest]
    -- A letter that was opened later would be matched.
    by_cases hxi : x = i
    · rw [hxi]
      rfl
    · rcases opened_eq_cons_iff.1 hrest with ⟨pre', mid', hw', hox, _, hpre'⟩
      have hxw : x ∈ w := by
        rw [hw']
        exact List.mem_append_right _ List.mem_cons_self
      have hxopen : x ∈ b.opened w := by
        rw [hrest]
        exact List.mem_cons_self
      have hirest : i ∈ rest := by
        rw [hrest] at hmem
        exact (List.mem_cons.1 hmem).resolve_left fun h => hxi h.symm
      have hipre : i ∈ pre' := mem_of_mem_opened (hpre' ▸ hirest)
      rcases List.append_of_mem hipre with ⟨p, q, rfl⟩
      have hmid : mid = q ++ x :: mid' := by
        have hw'' : w = p ++ i :: (q ++ x :: mid') := by rw [hw']; simp
        exact (eq_of_split hn hw hw'').2
      have hx : x ∈ mid := by
        rw [hmid]
        exact List.mem_append_right _ List.mem_cons_self
      exact absurd (hlater x hx hox) ((mem_opened_iff hn hxw hox).1 hxopen)

end Brackets
end LiquidMarkdown
