import LiquidMarkdown.Proofs.Template.Filters
import LiquidMarkdown.Template.Construct

/-!
# Tags rewritten one by one

A tag whose inside ends with a blank is rewritten as if nothing stood behind it.  This file defines:

* `Opens` — a rule that replaces only what begins with a brace;
* `Cut`, `CutBehindOpening` — the rewriting of filters is cut behind the end of a tag, from outside
  of a tag and from inside of one;
* `Prepared` — a tag is rewritten to a tag with the given inside, whatever stands behind it;
* `Quiet` — a text of word characters and blanks;
* `renamedWord` — the word that a first word is renamed to.

Every tag is rewritten to a tag whose inside fits in the place of the old one (`exists_prepared`).
Where a tag begins with a word, the blanks behind the word stay as they are and change nothing else
(`exists_prepared_word`).
-/

namespace LiquidMarkdown
namespace Template

/-! ## Rules -/

section Rules

variable {f : Text → Option (Text × Text)} {c : Char} {cs s t u z new rest : Text}

theorem rewriteAll_of_none (h : f (c :: cs) = none) :
    rewriteAll (.ofFunction f) (c :: cs) = c :: rewriteAll (.ofFunction f) cs := by
  rw [rewriteAll, Rule.ofFunction, h]

theorem rewriteAll_of_some (h : f t = some (new, rest)) (hlt : rest.length < t.length) :
    rewriteAll (.ofFunction f) t = new ++ rewriteAll (.ofFunction f) rest := by
  cases t with
  | nil => cases hlt
  | cons c cs =>
      have hrule : Rule.ofFunction f (c :: cs) = some ⟨new, rest, hlt⟩ := by
        simp only [Rule.ofFunction, h]
        exact dif_pos hlt
      rw [rewriteAll, hrule]

/-- A text is left as it is where the rule applies to none of its ends. -/
theorem rewriteAll_eq_self (h : ∀ s, s <:+ t → f s = none) : rewriteAll (.ofFunction f) t = t := by
  induction t with
  | nil => rw [rewriteAll]
  | cons c t ih =>
      rw [rewriteAll_of_none (h (c :: t) List.suffix_rfl),
        ih fun s hs => h s (hs.trans (List.suffix_cons c t))]

/-- The rule replaces only what begins with a brace, and takes something then. -/
structure Opens (f : Text → Option (Text × Text)) : Prop where
  brace : ∀ c cs, c ≠ '{' → f (c :: cs) = none
  takes : ∀ t new rest, f t = some (new, rest) → ∃ u, u ≠ [] ∧ t = u ++ rest

namespace Opens

theorem length_lt (hf : Opens f) (h : f t = some (new, rest)) : rest.length < t.length := by
  obtain ⟨u, hu, rfl⟩ := hf.takes t new rest h
  have hpos : 0 < u.length := List.length_pos_iff.2 hu
  rw [List.length_append]
  omega

/-- Text without a brace is passed over. -/
theorem rewriteAll_append (hf : Opens f) (hu : '{' ∉ u) (z : Text) :
    rewriteAll (.ofFunction f) (u ++ z) = u ++ rewriteAll (.ofFunction f) z := by
  induction u with
  | nil => rfl
  | cons c u ih =>
      rw [List.mem_cons, not_or] at hu
      rw [List.cons_append, rewriteAll_of_none (hf.brace c _ (Ne.symm hu.1)), ih hu.2,
        List.cons_append]

/-- A rule that sees the start of a text as if nothing stood behind it rewrites it so. -/
theorem rewriteAll_append_of_map (hf : Opens f)
    (h : ∀ s, f (s ++ z) = (f s).map fun r => (r.1, r.2 ++ z)) (s : Text) :
    rewriteAll (.ofFunction f) (s ++ z) =
      rewriteAll (.ofFunction f) s ++ rewriteAll (.ofFunction f) z := by
  generalize hlen : s.length = n
  induction n using Nat.strongRecOn generalizing s with
  | ind n ih =>
      cases s with
      | nil => rw [List.nil_append, rewriteAll, List.nil_append]
      | cons c s =>
          have hbehind := h (c :: s)
          cases hrule : f (c :: s) with
          | none =>
              rw [hrule, Option.map_none, List.cons_append] at hbehind
              rw [rewriteAll_of_none hrule, List.cons_append, rewriteAll_of_none hbehind,
                ih s.length (by simp [← hlen]) s rfl, List.cons_append]
          | some r =>
              rw [hrule, Option.map_some] at hbehind
              have hlt := hf.length_lt hrule
              rw [rewriteAll_of_some hrule hlt, rewriteAll_of_some hbehind (hf.length_lt hbehind),
                ih r.2.length (hlen ▸ hlt) r.2 rfl, List.append_assoc]

/-- A relation that holds between the replaced texts and their replacements, and of texts one after
another, holds between a text and the rewritten one. -/
theorem rewriteAll_rel (hf : Opens f) {R : Text → Text → Prop} (hnil : R [] [])
    (hcons : ∀ c s t, R s t → R (c :: s) (c :: t))
    (happend : ∀ u v s t, R u v → R s t → R (u ++ s) (v ++ t))
    (h : ∀ u new rest, f (u ++ rest) = some (new, rest) → R u new) (t : Text) :
    R t (rewriteAll (.ofFunction f) t) := by
  generalize hlen : t.length = n
  induction n using Nat.strongRecOn generalizing t with
  | ind n ih =>
      cases t with
      | nil =>
          rw [rewriteAll]
          exact hnil
      | cons c t =>
          cases hrule : f (c :: t) with
          | none =>
              rw [rewriteAll_of_none hrule]
              exact hcons c _ _ (ih t.length (by simp [← hlen]) t rfl)
          | some r =>
              have hlt := hf.length_lt hrule
              obtain ⟨u, -, hu⟩ := hf.takes _ r.1 r.2 hrule
              rw [rewriteAll_of_some hrule hlt]
              have hreplaced := h u r.1 r.2 (hu ▸ hrule)
              exact hu ▸ happend u r.1 r.2 _ hreplaced (ih r.2.length (hlen ▸ hlt) r.2 rfl)

/-- Where the replacements fit in their places, so does the rewritten text. -/
theorem fits_rewriteAll (hf : Opens f)
    (h : ∀ u new rest, f (u ++ rest) = some (new, rest) → Fits u new) (t : Text) :
    Fits t (rewriteAll (.ofFunction f) t) :=
  hf.rewriteAll_rel (.refl []) (fun c _ _ hfits => hfits.cons c)
    (fun _ _ _ _ hu hs => hu.append hs) h t

end Opens

end Rules

/-! ## Includes -/

section Includes

theorem takeDash_append (t z : Text) :
    takeDash (t ++ ' ' :: z) = ((takeDash t).1, (takeDash t).2 ++ ' ' :: z) := by
  cases t with
  | nil => rfl
  | cons c t =>
      by_cases hc : c = '-'
      · subst hc
        rfl
      · simp [takeDash, hc]

theorem takeDash_eq (t : Text) : (takeDash t).1 ++ (takeDash t).2 = t := by
  unfold takeDash
  split <;> rfl

/-- A word ends before a blank. -/
theorem dropWord?_append {word : Text} (hword : ' ' ∉ word) (t z : Text) :
    dropWord? word (t ++ ' ' :: z) = (dropWord? word t).map (· ++ ' ' :: z) := by
  have hblank : Unicode.isWord ' ' = false := by decide
  unfold dropWord?
  rw [dropPrefix?_append_blank hword]
  rcases Text.dropPrefix? word t with _ | _ | ⟨c, r⟩
  · rfl
  · simp [hblank]
  · by_cases hc : Unicode.isWord c = true <;> simp [hc]

theorem eq_of_dropWord? {word t rest : Text} (h : dropWord? word t = some rest) :
    t = word ++ rest := by
  unfold dropWord? at h
  split at h
  · next heq =>
      cases h
      exact Text.dropPrefix?_eq_some.1 heq
  · next heq =>
      split at h
      · cases h
      · cases h
        exact Text.dropPrefix?_eq_some.1 heq
  · cases h

theorem includeAt_eq (t : Text) : includeAt t =
    (Text.dropPrefix? ['{', '%'] t).bind fun inside =>
      (dropWord? "include" (Text.trimStart (takeDash inside).2)).bind fun rest =>
        some (['{', '%'] ++ (takeDash inside).1 ++ (takeDash inside).2.takeWhile Text.isBlank ++
          "liquid_include", rest) :=
  rfl

/-- An include is an opening, blanks and the word. -/
theorem eq_of_includeAt {t new rest : Text} (h : includeAt t = some (new, rest)) :
    ∃ dash blanks, t = ['{', '%'] ++ dash ++ blanks ++ "include" ++ rest ∧
      new = ['{', '%'] ++ dash ++ blanks ++ "liquid_include" ∧ (dash = [] ∨ dash = ['-']) := by
  rw [includeAt_eq] at h
  obtain ⟨inside, hinside, h⟩ := Option.bind_eq_some_iff.1 h
  obtain ⟨rest', hrest, h⟩ := Option.bind_eq_some_iff.1 h
  cases h
  refine ⟨(takeDash inside).1, (takeDash inside).2.takeWhile Text.isBlank, ?_, rfl, ?_⟩
  · rw [List.append_assoc _ _ rest, ← eq_of_dropWord? hrest, List.append_assoc,
      Text.takeWhile_append_dropStart, List.append_assoc, takeDash_eq]
    exact Text.dropPrefix?_eq_some.1 hinside
  · unfold takeDash
    split <;> simp

theorem opens_includeAt : Opens includeAt where
  brace c cs hc := by
    have hnone : Text.dropPrefix? ['{', '%'] (c :: cs) = none := if_neg (Ne.symm hc)
    rw [includeAt_eq, hnone, Option.bind_none]
  takes t new rest h := by
    obtain ⟨dash, blanks, rfl, -⟩ := eq_of_includeAt h
    exact ⟨_, by simp, rfl⟩

/-- The blanks at the start of a text and what follows them, with the end of a tag behind it. -/
theorem trimStart_tagEnd (u z : Text) :
    Text.trimStart u = [] ∧ Text.trimStart (u ++ ' ' :: '%' :: z) = '%' :: z ∨
      Text.trimStart (u ++ ' ' :: '%' :: z) = Text.trimStart u ++ ' ' :: '%' :: z ∧
        (u ++ ' ' :: '%' :: z).takeWhile Text.isBlank = u.takeWhile Text.isBlank := by
  induction u with
  | nil => exact .inl ⟨rfl, rfl⟩
  | cons c u ih =>
      by_cases hc : Text.isBlank c = true
      · simpa [Text.dropStart, hc] using ih
      · simp [Text.dropStart, hc]

/-- An include is found before the end of a tag as in front of nothing. -/
theorem includeAt_append (t z : Text) : includeAt (t ++ ' ' :: '%' :: z) =
    (includeAt t).map fun r => (r.1, r.2 ++ ' ' :: '%' :: z) := by
  have hopen : ' ' ∉ ['{', '%'] := by decide
  have hinclude : ' ' ∉ ("include" : Text) := by decide
  rw [includeAt_eq, includeAt_eq, dropPrefix?_append_blank hopen]
  cases Text.dropPrefix? ['{', '%'] t with
  | none => rfl
  | some inside =>
      simp only [Option.map_some, Option.bind_some, takeDash_append]
      rcases trimStart_tagEnd (takeDash inside).2 z with ⟨hnil, hbehind⟩ | ⟨hbehind, hblanks⟩
      · rw [hnil, hbehind]
        rfl
      · rw [hbehind, hblanks, dropWord?_append hinclude]
        cases dropWord? "include" (Text.trimStart (takeDash inside).2) <;> rfl

/-- Includes before the end of a tag are renamed as if it was not there. -/
theorem renameIncludes_append (s z : Text) :
    renameIncludes (s ++ ' ' :: '%' :: z) = renameIncludes s ++ ' ' :: '%' :: renameIncludes z := by
  have hend : renameIncludes (' ' :: '%' :: z) = ' ' :: '%' :: renameIncludes z :=
    opens_includeAt.rewriteAll_append (u := [' ', '%']) (by decide) z
  rw [← hend]
  exact opens_includeAt.rewriteAll_append_of_map (includeAt_append · z) s

theorem fits_include {u : Text} (hu : u ≠ []) : Fits (u ++ "include") (u ++ "liquid_include") where
  head := by
    cases u with
    | nil => exact absurd rfl hu
    | cons c u => rfl
  last := by
    left
    rw [List.getLast?_append, List.getLast?_append]
    rfl
  inline h := by
    have hword : Inline ("liquid_include" : Text) := by decide
    exact inline_append.2 ⟨(inline_append.1 h).1, hword, by simp⟩
  shown := .inr ⟨'_', List.mem_append_right u (by decide), .inr (.inr rfl)⟩

theorem fits_renameIncludes (t : Text) : Fits t (renameIncludes t) := by
  refine opens_includeAt.fits_rewriteAll (fun u new rest h => ?_) t
  obtain ⟨dash, blanks, hu, rfl, -⟩ := eq_of_includeAt h
  rw [List.append_cancel_right hu]
  exact fits_include (by simp)

/-- The include that a tag begins with is the tag's own. -/
theorem exists_renameIncludes_tag (s : Text) :
    ∃ w, renameIncludes ('{' :: '%' :: ' ' :: s) = '{' :: '%' :: w ∧ Fits (' ' :: s) w := by
  cases hrule : includeAt ('{' :: '%' :: ' ' :: s) with
  | none =>
      have hpass : renameIncludes ('%' :: ' ' :: s) = '%' :: ' ' :: renameIncludes s :=
        opens_includeAt.rewriteAll_append (u := ['%', ' ']) (by decide) s
      refine ⟨' ' :: renameIncludes s, ?_, (fits_renameIncludes s).cons ' '⟩
      rw [← hpass]
      exact rewriteAll_of_none hrule
  | some r =>
      obtain ⟨dash, blanks, ht, hnew, hdash⟩ := eq_of_includeAt hrule
      have hs : ' ' :: s = dash ++ blanks ++ "include" ++ r.2 := by simpa using ht
      -- A space stands behind the delimiter, so there is no dash.
      have hdash' : dash = [] := by
        rcases hdash with rfl | rfl
        · rfl
        · cases (List.cons.inj hs).1
      subst hdash'
      have hblanks : blanks ≠ [] := by
        rintro rfl
        cases (List.cons.inj hs).1
      refine ⟨blanks ++ "liquid_include" ++ renameIncludes r.2, ?_, ?_⟩
      · have hrest := rewriteAll_of_some hrule (opens_includeAt.length_lt hrule)
        rw [hnew] at hrest
        exact hrest.trans (by simp [renameIncludes])
      · rw [hs, List.nil_append]
        exact (fits_include hblanks).append (fits_renameIncludes r.2)

end Includes

/-! ## Filters -/

section Filters

open FilterArguments

/-- The first of the delimiters that the text begins with, and the rest. -/
def firstOf (ds : List Text) (t : Text) : Option (Text × Text) :=
  ds.findSome? fun d => (Text.dropPrefix? d t).map fun r => (d, r)

theorem eq_of_firstOf {ds : List Text} {t d r : Text} (h : firstOf ds t = some (d, r)) :
    t = d ++ r ∧ d ∈ ds := by
  obtain ⟨e, he, hr⟩ := List.exists_of_findSome?_eq_some h
  obtain ⟨r', hr', heq⟩ := Option.map_eq_some_iff.1 hr
  cases heq
  exact ⟨Text.dropPrefix?_eq_some.1 hr', he⟩

theorem firstOf_eq_none {ds : List Text} {t : Text} (h : ∀ d ∈ ds, ∀ r, t ≠ d ++ r) :
    firstOf ds t = none :=
  Option.eq_none_iff_forall_ne_some.2 fun r hr =>
    h r.1 (eq_of_firstOf hr).2 r.2 (eq_of_firstOf hr).1

theorem openAt?_eq (t : Text) :
    openAt? t = firstOf [['{', '{', '-'], ['{', '{'], ['{', '%', '-'], ['{', '%']] t := by
  -- A dash behind the braces belongs to the longer delimiter.
  have hdash : ∀ r : Text, (∀ r', r = '-' :: r' → False) → Text.dropPrefix? ['-'] r = none := by
    intro r hr
    refine Option.eq_none_iff_forall_ne_some.2 fun r' h => hr r' (Text.dropPrefix?_eq_some.1 h)
  unfold openAt?
  split
  · rfl
  · next r hr => simp [firstOf, Text.dropPrefix?, hdash r hr]
  · rfl
  · next r hr => simp [firstOf, Text.dropPrefix?, hdash r hr]
  · next h₁ h₂ h₃ h₄ =>
      refine (firstOf_eq_none ?_).symm
      simp only [List.forall_mem_cons]
      exact ⟨h₁, h₂, h₃, h₄, fun _ hd => absurd hd List.not_mem_nil⟩

theorem closeAt?_eq (t : Text) :
    closeAt? t = firstOf [['-', '}', '}'], ['}', '}'], ['-', '%', '}'], ['%', '}']] t := by
  unfold closeAt?
  split
  · rfl
  · rfl
  · rfl
  · rfl
  · next h₁ h₂ h₃ h₄ =>
      refine (firstOf_eq_none ?_).symm
      simp only [List.forall_mem_cons]
      exact ⟨h₁, h₂, h₃, h₄, fun _ hd => absurd hd List.not_mem_nil⟩

theorem firstOf_append {ds : List Text} (hds : ∀ d ∈ ds, ' ' ∉ d) (t z : Text) :
    firstOf ds (t ++ ' ' :: z) = (firstOf ds t).map fun r => (r.1, r.2 ++ ' ' :: z) := by
  induction ds with
  | nil => rfl
  | cons d ds ih =>
      have hrest := ih fun x hx => hds x (List.mem_cons_of_mem d hx)
      rw [firstOf] at hrest ⊢
      rw [firstOf, List.findSome?_cons, List.findSome?_cons,
        dropPrefix?_append_blank (hds d List.mem_cons_self), hrest]
      cases Text.dropPrefix? d t <;> rfl

theorem openAt?_append (t z : Text) :
    openAt? (t ++ ' ' :: z) = (openAt? t).map fun r => (r.1, r.2 ++ ' ' :: z) := by
  rw [openAt?_eq, openAt?_eq]
  exact firstOf_append (by decide) t z

theorem closeAt?_append (t z : Text) :
    closeAt? (t ++ ' ' :: z) = (closeAt? t).map fun r => (r.1, r.2 ++ ' ' :: z) := by
  rw [closeAt?_eq, closeAt?_eq]
  exact firstOf_append (by decide) t z

theorem eq_of_openAt? {t o r : Text} (h : openAt? t = some (o, r)) : t = o ++ r ∧ o ≠ [] := by
  unfold openAt? at h
  split at h <;> cases h <;> simp

theorem eq_of_closeAt? {t c r : Text} (h : closeAt? t = some (c, r)) : t = c ++ r ∧ c ≠ [] := by
  unfold closeAt? at h
  split at h <;> cases h <;> simp

/-- What closes a construct is found before the end of a tag, or is that end. -/
theorem breakAt_closeAt? (t z : Text) : breakAt closeAt? (t ++ ' ' :: '%' :: '}' :: z) =
    match breakAt closeAt? t with
    | some (body, closing, rest) => some (body, closing, rest ++ ' ' :: '%' :: '}' :: z)
    | none => some (t ++ [' '], ['%', '}'], z) := by
  induction t with
  | nil => rfl
  | cons c t ih =>
      have hbehind := closeAt?_append (c :: t) ('%' :: '}' :: z)
      rw [List.cons_append] at hbehind ⊢
      rw [breakAt, breakAt, hbehind, ih]
      cases closeAt? (c :: t) with
      | some r => rfl
      | none =>
          cases breakAt closeAt? t <;> rfl

/-- The text behind an opening delimiter, rewritten. -/
def behindOpening (t : Text) : Option Text :=
  (breakAt closeAt? t).map fun r => toCalls r.1 ++ r.2.1 ++ callFilters r.2.2

theorem constructAt_eq (t : Text) : constructAt t = (openAt? t).bind fun o =>
    (breakAt closeAt? o.2).bind fun r => some (o.1 ++ toCalls r.1 ++ r.2.1, r.2.2) :=
  rfl

theorem opens_constructAt : Opens constructAt where
  brace c cs hc := by
    have hnone : openAt? (c :: cs) = none := by
      unfold openAt?
      split <;> simp_all
    rw [constructAt_eq, hnone, Option.bind_none]
  takes t new rest h := by
    rw [constructAt_eq] at h
    obtain ⟨o, ho, h⟩ := Option.bind_eq_some_iff.1 h
    obtain ⟨r, hr, h⟩ := Option.bind_eq_some_iff.1 h
    cases h
    obtain ⟨s, hs, hclose⟩ := eq_of_breakAt hr
    obtain ⟨ht, hne⟩ := eq_of_openAt? ho
    obtain ⟨hs', -⟩ := eq_of_closeAt? hclose
    refine ⟨o.1 ++ (r.1 ++ r.2.1), by simp [hne], ?_⟩
    rw [ht, hs, hs', List.append_assoc, List.append_assoc]

theorem callFilters_of_openAt? {t o i x : Text} (ho : openAt? t = some (o, i))
    (hx : behindOpening i = some x) : callFilters t = o ++ x := by
  obtain ⟨r, hr, rfl⟩ := Option.map_eq_some_iff.1 hx
  have hrule : constructAt t = some (o ++ toCalls r.1 ++ r.2.1, r.2.2) := by
    rw [constructAt_eq, ho, Option.bind_some, hr, Option.bind_some]
  have h := rewriteAll_of_some hrule (opens_constructAt.length_lt hrule)
  exact h.trans (by simp [callFilters])

/-- Behind an opening delimiter, the text up to the end of a tag is rewritten as if nothing stood
behind that end. -/
def CutBehindOpening (s : Text) : Prop :=
  ∃ v, Fits (s ++ [' ']) v ∧ ∀ z, behindOpening (s ++ ' ' :: '%' :: '}' :: z) =
    some (v ++ '%' :: '}' :: callFilters z)

/-- The text up to the end of a tag is rewritten as if nothing stood behind that end. -/
def Cut (s : Text) : Prop :=
  ∃ v, Fits (s ++ [' ']) v ∧ ∀ z, callFilters (s ++ ' ' :: '%' :: '}' :: z) =
    v ++ '%' :: '}' :: callFilters z

theorem cutBehindOpening_of_cut {s : Text} (h : ∀ r : Text, r.length < s.length → Cut r) :
    CutBehindOpening s := by
  cases hclose : breakAt closeAt? s with
  | none =>
      refine ⟨toCalls (s ++ [' ']), fits_toCalls _, fun z => ?_⟩
      rw [behindOpening, breakAt_closeAt?, hclose]
      simp
  | some r =>
      obtain ⟨body, closing, rest⟩ := r
      obtain ⟨u, rfl, hu⟩ := eq_of_breakAt hclose
      obtain ⟨rfl, hne⟩ := eq_of_closeAt? hu
      have hpos : 0 < closing.length := List.length_pos_iff.2 hne
      obtain ⟨v, hfits, hv⟩ := h rest (by simp only [List.length_append]; omega)
      refine ⟨toCalls body ++ closing ++ v, ?_, fun z => ?_⟩
      · simpa using ((fits_toCalls body).append (.refl closing)).append hfits
      · rw [behindOpening, breakAt_closeAt?, hclose]
        simp [hv]

theorem cut_of_cut {s : Text}
    (h : ∀ r : Text, r.length < s.length → Cut r ∧ CutBehindOpening r) : Cut s := by
  -- A construct opens here with the end of the tag behind the text if it does without: the cut
  -- moves on by a character, or to the inside of the construct.
  cases hopen : openAt? s with
  | none =>
      have hbehind (z : Text) : openAt? (s ++ ' ' :: '%' :: '}' :: z) = none := by
        rw [openAt?_append, hopen, Option.map_none]
      cases s with
      | nil =>
          refine ⟨[' '], .refl _, fun z => ?_⟩
          exact opens_constructAt.rewriteAll_append (u := [' ', '%', '}']) (by decide) z
      | cons c s =>
          obtain ⟨⟨v, hfits, hv⟩, -⟩ := h s (Nat.lt_succ_self _)
          refine ⟨c :: v, hfits.cons c, fun z => ?_⟩
          have hrule : constructAt (c :: (s ++ ' ' :: '%' :: '}' :: z)) = none := by
            rw [constructAt_eq, ← List.cons_append, hbehind, Option.bind_none]
          exact (rewriteAll_of_none hrule).trans (congrArg (c :: ·) (hv z))
  | some r =>
      obtain ⟨o, i⟩ := r
      have hbehind (z : Text) : openAt? (s ++ ' ' :: '%' :: '}' :: z) =
          some (o, i ++ ' ' :: '%' :: '}' :: z) := by
        rw [openAt?_append, hopen, Option.map_some]
      obtain ⟨rfl, hne⟩ := eq_of_openAt? hopen
      have hpos : 0 < o.length := List.length_pos_iff.2 hne
      obtain ⟨-, v, hfits, hv⟩ := h i (by simp only [List.length_append]; omega)
      refine ⟨o ++ v, ?_, fun z => ?_⟩
      · simpa using (Fits.refl o).append hfits
      · rw [callFilters_of_openAt? (hbehind z) (hv z), List.append_assoc]

theorem cut_and_cutBehindOpening (s : Text) : Cut s ∧ CutBehindOpening s := by
  generalize hlen : s.length = n
  induction n using Nat.strongRecOn generalizing s with
  | ind n ih =>
      have h (r : Text) (hr : r.length < s.length) : Cut r ∧ CutBehindOpening r :=
        ih r.length (hlen ▸ hr) r rfl
      exact ⟨cut_of_cut h, cutBehindOpening_of_cut fun r hr => (h r hr).1⟩

end Filters

/-! ## Tags -/

section Tags

/-- A tag is rewritten to one with the given inside, whatever stands behind it. -/
def Prepared (s w : Text) : Prop :=
  ∀ z, callFilters (renameIncludes (wrapTag s ++ z)) =
    '{' :: '%' :: (w ++ '%' :: '}' :: callFilters (renameIncludes z))

theorem renameIncludes_wrapTag (s z : Text) : renameIncludes (wrapTag s ++ z) =
    renameIncludes ('{' :: '%' :: ' ' :: s) ++ ' ' :: '%' :: '}' :: renameIncludes z := by
  have hbrace : renameIncludes ('}' :: z) = '}' :: renameIncludes z :=
    opens_includeAt.rewriteAll_append (u := ['}']) (by decide) z
  have htag : wrapTag s ++ z = '{' :: '%' :: ' ' :: s ++ ' ' :: '%' :: '}' :: z := by simp [wrapTag]
  rw [htag, renameIncludes_append, hbrace]

/-- A tag that is rewritten is a tag, whose inside fits in the place of the old one. -/
theorem exists_prepared (s : Text) : ∃ w, Fits (' ' :: (s ++ [' '])) w ∧ Prepared s w := by
  obtain ⟨w, hw, hfits⟩ := exists_renameIncludes_tag s
  obtain ⟨-, v, hfits', hv⟩ := cut_and_cutBehindOpening w
  refine ⟨v, (hfits.append (.refl [' '])).trans hfits', fun z => ?_⟩
  rw [renameIncludes_wrapTag, hw]
  have hopen (x : Text) : openAt? ('{' :: '%' :: (w ++ x)) = some (['{', '%'], w ++ x) := by
    have hhead := hfits.head
    cases w with
    | nil => cases hhead
    | cons c w =>
        cases hhead
        rfl
  exact callFilters_of_openAt? (hopen _) (hv _)

/-- Word characters and blanks mean nothing to the rewritings. -/
def Quiet (u : Text) : Prop :=
  ∀ c ∈ u, Unicode.isWord c = true ∨ Text.isBlank c = true

theorem Quiet.ne {u : Text} (hu : Quiet u) {c d : Char} (hc : c ∈ u)
    (hd : Unicode.isWord d = false ∧ Text.isBlank d = false) : c ≠ d := by
  rintro rfl
  rcases hu c hc with h | h
  · rw [hd.1] at h
    cases h
  · rw [hd.2] at h
    cases h

theorem Quiet.breakAt_append {u : Text} (hu : Quiet u) (t : Text) :
    breakAt closeAt? (u ++ t) = (breakAt closeAt? t).map fun r => (u ++ r.1, r.2) := by
  induction u with
  | nil => simp
  | cons c u ih =>
      have hdash : c ≠ '-' := hu.ne List.mem_cons_self (by decide)
      have hbrace : c ≠ '}' := hu.ne List.mem_cons_self (by decide)
      have hpercent : c ≠ '%' := hu.ne List.mem_cons_self (by decide)
      have hnone : closeAt? (c :: (u ++ t)) = none := by
        unfold closeAt?
        split <;> simp_all
      rw [List.cons_append, breakAt, hnone, ih fun x hx => hu x (List.mem_cons_of_mem c hx)]
      cases breakAt closeAt? t <;> rfl

theorem Quiet.behindOpening_append {u : Text} (hu : Quiet u) (t : Text) :
    behindOpening (u ++ t) = (behindOpening t).map (u ++ ·) := by
  have hcalls : ∀ c ∈ u, FilterArguments.isQuote c = false ∧ c ≠ '|' := by
    intro c hc
    refine ⟨?_, hu.ne hc (by decide)⟩
    have hsingle : c ≠ '\'' := hu.ne hc (by decide)
    have hdouble : c ≠ '"' := hu.ne hc (by decide)
    simp [FilterArguments.isQuote, hsingle, hdouble]
  rw [behindOpening, hu.breakAt_append, behindOpening]
  cases breakAt closeAt? t with
  | none => rfl
  | some r => simp [FilterArguments.toCalls_append hcalls]

/-- Among words, a word is found only in its own place. -/
theorem dropWord?_eq_none {word w : Text} (hw : ∀ c ∈ w, Unicode.isWord c = true) (hne : w ≠ word) :
    dropWord? word w = none := by
  unfold dropWord?
  split
  · next h =>
      rw [Text.dropPrefix?_eq_some, List.append_nil] at h
      exact absurd h hne
  · next c cs h =>
      rw [Text.dropPrefix?_eq_some] at h
      have hc : Unicode.isWord c = true := hw c (by simp [h])
      rw [if_pos hc]
  · rfl

/-- What the word at the start of a tag is renamed to. -/
def renamedWord (w : Text) : Text :=
  if w = ("include" : Text) then "liquid_include" else w

theorem isWord_renamedWord {w : Text} (hw : ∀ c ∈ w, Unicode.isWord c = true) :
    ∀ c ∈ renamedWord w, Unicode.isWord c = true := by
  unfold renamedWord
  split
  · exact List.all_eq_true.1 (by decide)
  · exact hw

theorem renamedWord_ne_nil {w : Text} (hne : w ≠ []) : renamedWord w ≠ [] := by
  unfold renamedWord
  split
  · decide
  · exact hne

section Word

variable {w : Text} (hw : ∀ c ∈ w, Unicode.isWord c = true) (hne : w ≠ [])

include hw hne

/-- A word at the start of a text is not blank. -/
theorem trimStart_word (x : Text) : Text.trimStart (w ++ x) = w ++ x := by
  refine Text.dropStart_eq_self fun c hc => ?_
  cases w with
  | nil => exact absurd rfl hne
  | cons d w =>
      cases hc
      exact Unicode.isBlank_of_isWord (hw c List.mem_cons_self)

theorem renameIncludes_word (x : Text) :
    renameIncludes ('{' :: '%' :: ' ' :: (w ++ ' ' :: x)) =
      '{' :: '%' :: ' ' :: (renamedWord w ++ ' ' :: renameIncludes x) := by
  by_cases hinclude : w = ("include" : Text)
  · subst hinclude
    have hblank : renameIncludes (' ' :: x) = ' ' :: renameIncludes x :=
      opens_includeAt.rewriteAll_append (u := [' ']) (by decide) x
    have hrule : includeAt ('{' :: '%' :: ' ' :: (("include" : Text) ++ ' ' :: x)) =
        some (['{', '%'] ++ [' '] ++ "liquid_include", ' ' :: x) := rfl
    have h := rewriteAll_of_some hrule (opens_includeAt.length_lt hrule)
    rw [renameIncludes] at hblank ⊢
    rw [h, hblank, renamedWord, if_pos rfl]
    simp
  · have hrule : includeAt ('{' :: '%' :: ' ' :: (w ++ ' ' :: x)) = none := by
      have hopen : Text.dropPrefix? ['{', '%'] ('{' :: '%' :: ' ' :: (w ++ ' ' :: x)) =
        some (' ' :: (w ++ ' ' :: x)) := rfl
      have hdash : takeDash (' ' :: (w ++ ' ' :: x)) = ([], ' ' :: (w ++ ' ' :: x)) := rfl
      have htrim : Text.trimStart (' ' :: (w ++ ' ' :: x)) = w ++ ' ' :: x :=
        trimStart_word hw hne (' ' :: x)
      rw [includeAt_eq, hopen, Option.bind_some, hdash, htrim, dropWord?_append (by decide),
        dropWord?_eq_none hw hinclude]
      rfl
    -- No include begins inside of the word, for it holds no brace.
    have hbrace : '{' ∉ ['%', ' '] ++ w ++ [' '] := by
      have hmem : '{' ∉ w := fun hmem => absurd (hw _ hmem) (by decide)
      simp [hmem]
    have hpass := opens_includeAt.rewriteAll_append hbrace x
    rw [renamedWord, if_neg hinclude]
    refine (rewriteAll_of_none hrule).trans (congrArg ('{' :: ·) ?_)
    simpa [renameIncludes] using hpass

/-- A tag that begins with a word and blanks is rewritten behind the blanks. -/
theorem callFilters_word {b : Text} (hb : ∀ c ∈ b, Text.isBlank c = true) {x y : Text}
    (hx : behindOpening (renameIncludes x) = some y) :
    callFilters (renameIncludes ('{' :: '%' :: ' ' :: (w ++ ' ' :: (b ++ x)))) =
      '{' :: '%' :: ' ' :: (renamedWord w ++ ' ' :: (b ++ y)) := by
  have hpass : renameIncludes (b ++ x) = b ++ renameIncludes x :=
    opens_includeAt.rewriteAll_append (fun hmem => by cases hb _ hmem) x
  have hquiet : Quiet (' ' :: (renamedWord w ++ ' ' :: b)) := by
    intro c hc
    simp only [List.mem_cons, List.mem_append] at hc
    rcases hc with rfl | hc | rfl | hc
    · exact .inr rfl
    · exact .inl (isWord_renamedWord hw c hc)
    · exact .inr rfl
    · exact .inr (hb c hc)
  have hbehind := hquiet.behindOpening_append (renameIncludes x)
  rw [hx, Option.map_some] at hbehind
  have hopen (t : Text) : openAt? ('{' :: '%' :: ' ' :: t) = some (['{', '%'], ' ' :: t) := rfl
  rw [renameIncludes_word hw hne, hpass]
  simpa using callFilters_of_openAt? (hopen _) hbehind

/-- A tag with nothing but a word. -/
theorem prepared_word : Prepared w (' ' :: (renamedWord w ++ [' '])) := by
  intro z
  have hend : renameIncludes ('%' :: '}' :: z) = '%' :: '}' :: renameIncludes z :=
    opens_includeAt.rewriteAll_append (u := ['%', '}']) (by decide) z
  have hx : behindOpening (renameIncludes ('%' :: '}' :: z)) =
      some ('%' :: '}' :: callFilters (renameIncludes z)) := by
    have hclose : breakAt closeAt? ('%' :: '}' :: renameIncludes z) =
        some ([], ['%', '}'], renameIncludes z) := rfl
    have hnil : FilterArguments.toCalls [] = [] := by
      rw [FilterArguments.toCalls, FilterArguments.rewrite]
    rw [hend, behindOpening, hclose, Option.map_some, hnil]
    rfl
  have h := callFilters_word hw hne (b := []) (by simp) hx
  simpa [wrapTag] using h

/-- In a tag that begins with a word, the blanks behind the word stay as they are, and nothing else
depends on them. -/
theorem exists_prepared_word (s : Text) : ∃ q, ∀ b, (∀ c ∈ b, Text.isBlank c = true) →
    Prepared (w ++ ' ' :: (b ++ s)) (' ' :: (renamedWord w ++ ' ' :: (b ++ q))) := by
  obtain ⟨-, q, -, hq⟩ := cut_and_cutBehindOpening (renameIncludes s)
  refine ⟨q, fun b hb z => ?_⟩
  have hbrace : renameIncludes ('}' :: z) = '}' :: renameIncludes z :=
    opens_includeAt.rewriteAll_append (u := ['}']) (by decide) z
  have hx : behindOpening (renameIncludes (s ++ ' ' :: '%' :: '}' :: z)) =
      some (q ++ '%' :: '}' :: callFilters (renameIncludes z)) := by
    rw [renameIncludes_append, hbrace]
    exact hq _
  have h := callFilters_word hw hne hb hx
  simpa [wrapTag] using h

end Word

end Tags

end Template
end LiquidMarkdown
