import LiquidMarkdown.Proofs.Construct.Leftmost
import LiquidMarkdown.Proofs.Template.Chains
import LiquidMarkdown.Proofs.Template.Layout
import LiquidMarkdown.Proofs.Template.Preservation

/-!
# Expressions rewritten one by one

An expression goes through the rewritings of tags before its filters are rewritten.  They leave it
as it is, and the construct that is found in it is the expression itself, unless it holds the end of
a tag, or what begins an include, be it in quotes.  This file defines:

* `HoldsInclude` — an include begins somewhere in a text;
* `Dashed` — an expression with its dashes and what stands between them.

An expression without the end of a tag is rewritten in its filters and nowhere else, just in case no
include begins in it (`prepare_expression_iff`).
-/

namespace LiquidMarkdown
namespace Template

open FilterArguments

/-! ## Includes -/

section Includes

variable {word t rest : Text}

/-- The text begins with the opening of a tag and the word of an include. -/
def BeginsInclude (t : Text) : Prop :=
  ∃ dash blanks rest, t = ['{', '%'] ++ dash ++ blanks ++ "include" ++ rest ∧
    (dash = [] ∨ dash = ['-']) ∧ (∀ c ∈ blanks, Text.isBlank c = true) ∧
      ∀ c ∈ rest.head?, Unicode.isWord c = false

/-- What begins an include stands somewhere in the text. -/
def HoldsInclude (t : Text) : Prop :=
  ∃ s, s <:+ t ∧ BeginsInclude s

theorem dropWord?_eq_some_iff : dropWord? word t = some rest ↔
    t = word ++ rest ∧ ∀ c ∈ rest.head?, Unicode.isWord c = false := by
  constructor
  · intro h
    refine ⟨eq_of_dropWord? h, ?_⟩
    unfold dropWord? at h
    split at h
    · cases h
      simp
    · split at h
      · cases h
      · next hc =>
          cases h
          rintro _ ⟨⟩
          exact Bool.not_eq_true _ ▸ hc
    · cases h
  · rintro ⟨rfl, hrest⟩
    have hdrop : Text.dropPrefix? word (word ++ rest) = some rest := Text.dropPrefix?_eq_some.2 rfl
    unfold dropWord?
    rw [hdrop]
    cases rest with
    | nil => rfl
    | cons c rest => exact if_neg (Bool.not_eq_true _ ▸ hrest c rfl)

/-- An include is found where one begins. -/
theorem includeAt_ne_none_iff : includeAt t ≠ none ↔ BeginsInclude t := by
  constructor
  · intro h
    obtain ⟨r, hr⟩ := Option.ne_none_iff_exists'.1 h
    rw [includeAt_eq] at hr
    obtain ⟨inside, hinside, hr⟩ := Option.bind_eq_some_iff.1 hr
    obtain ⟨rest, hrest, -⟩ := Option.bind_eq_some_iff.1 hr
    obtain ⟨hword, hbehind⟩ := dropWord?_eq_some_iff.1 hrest
    refine ⟨(takeDash inside).1, (takeDash inside).2.takeWhile Text.isBlank, rest, ?_, ?_,
      List.all_eq_true.1 List.all_takeWhile, hbehind⟩
    · rw [List.append_assoc _ _ rest, ← hword, List.append_assoc, Text.takeWhile_append_dropStart,
        List.append_assoc, takeDash_eq]
      exact Text.dropPrefix?_eq_some.1 hinside
    · unfold takeDash
      split <;> simp
  · -- A dash is taken first, so without one the text behind the delimiter must not begin with one.
    rintro ⟨dash, blanks, rest, rfl, hdash, hblanks, hrest⟩
    have hopen : Text.dropPrefix? ['{', '%'] (['{', '%'] ++ dash ++ blanks ++ "include" ++ rest) =
        some (dash ++ (blanks ++ (("include" : Text) ++ rest))) :=
      Text.dropPrefix?_eq_some.2 (by simp)
    have htake : takeDash (dash ++ (blanks ++ (("include" : Text) ++ rest))) =
        (dash, blanks ++ (("include" : Text) ++ rest)) := by
      rcases hdash with rfl | rfl
      · cases blanks with
        | nil => rfl
        | cons c blanks =>
            have hc : c ≠ '-' := by
              rintro rfl
              cases hblanks '-' List.mem_cons_self
            simp [takeDash, hc]
      · rfl
    have htrim : Text.trimStart (blanks ++ (("include" : Text) ++ rest)) =
        ("include" : Text) ++ rest :=
      Text.dropStart_append hblanks (by rintro c ⟨⟩; decide)
    have hword : dropWord? "include" (("include" : Text) ++ rest) = some rest :=
      dropWord?_eq_some_iff.2 ⟨rfl, hrest⟩
    rw [includeAt_eq, hopen, Option.bind_some, htake, htrim, hword]
    exact Option.some_ne_none _

instance : DecidablePred HoldsInclude := fun t =>
  decidable_of_iff (∃ s ∈ t.tails, includeAt s ≠ none)
    (by simp [HoldsInclude, includeAt_ne_none_iff])

/-- A renamed include says more than it did before. -/
theorem length_substance_include {new : Text} (h : includeAt t = some (new, rest)) :
    ∃ u, t = u ++ rest ∧ (substance u).length < (substance new).length := by
  have hlonger : (substance "include").length < (substance "liquid_include").length := by decide
  obtain ⟨dash, blanks, ht, rfl, -⟩ := eq_of_includeAt h
  refine ⟨_, ht, ?_⟩
  simp only [substance_append, List.length_append]
  omega

theorem length_substance_renameIncludes (t : Text) :
    (substance t).length ≤ (substance (renameIncludes t)).length := by
  refine opens_includeAt.rewriteAll_rel
    (R := fun s t => (substance s).length ≤ (substance t).length)
    (Nat.le_refl _) (fun c s t hst => ?_) (fun u v s t huv hst => ?_) (fun u new rest h => ?_) t
  · rw [substance_cons, substance_cons c t, List.length_append, List.length_append]
    omega
  · rw [substance_append, substance_append, List.length_append, List.length_append]
    omega
  · obtain ⟨u', hu, hlt⟩ := length_substance_include h
    rw [List.append_cancel_right hu]
    exact hlt.le

/-- A text in which an include begins is longer when it is renamed. -/
theorem length_substance_lt (h : HoldsInclude t) :
    (substance t).length < (substance (renameIncludes t)).length := by
  obtain ⟨s, hs, hbegins⟩ := h
  induction t with
  | nil =>
      rw [List.suffix_nil.1 hs] at hbegins
      exact absurd rfl (includeAt_ne_none_iff.2 hbegins)
  | cons c t ih =>
      -- A renamed include adds to the substance, and everything else is kept.
      cases hrule : includeAt (c :: t) with
      | none =>
          have hbehind := rewriteAll_of_none hrule
          rw [← renameIncludes, ← renameIncludes] at hbehind
          rcases List.suffix_cons_iff.1 hs with rfl | hs
          · exact absurd hrule (includeAt_ne_none_iff.2 hbegins)
          · have hlt := ih hs
            rw [hbehind, substance_cons, substance_cons c (renameIncludes t), List.length_append,
              List.length_append]
            omega
      | some r =>
          obtain ⟨u, hu, hlt⟩ := length_substance_include hrule
          have hbehind := rewriteAll_of_some hrule (opens_includeAt.length_lt hrule)
          have hrest := length_substance_renameIncludes r.2
          rw [← renameIncludes, ← renameIncludes] at hbehind
          rw [hbehind, hu]
          simp only [substance_append, List.length_append]
          omega

/-- A text in which no include begins is left as it is. -/
theorem renameIncludes_eq_self (h : ¬ HoldsInclude t) : renameIncludes t = t := by
  refine rewriteAll_eq_self fun s hs => ?_
  by_contra hne
  exact h ⟨s, hs, includeAt_ne_none_iff.1 hne⟩

end Includes

/-! ## The end of a tag -/

section TagEnd

variable {t : Text}

theorem eq_of_breakAtTagEnd {body dash rest : Text}
    (h : breakAtTagEnd t = some (body, dash, rest)) :
    t = body ++ dash ++ ['%', '}'] ++ rest := by
  rw [breakAtTagEnd, Option.map_eq_some_iff] at h
  obtain ⟨⟨body', dash', rest'⟩, hcut, heq⟩ := h
  cases heq
  obtain ⟨s, rfl, hs⟩ := eq_of_breakAt hcut
  split at hs <;> cases hs <;> simp

/-- A tag of lines goes from the opening of a tag to the end of one. -/
theorem eq_of_lineTagsAt {new rest : Text} (h : lineTagsAt t = some (new, rest)) :
    ∃ u, t = ['{', '%'] ++ u ++ ['%', '}'] ++ rest := by
  rw [lineTagsAt_eq] at h
  obtain ⟨inside, hinside, h⟩ := Option.bind_eq_some_iff.1 h
  obtain ⟨text, htext, h⟩ := Option.bind_eq_some_iff.1 h
  obtain ⟨⟨body, dash, r⟩, hcut, h⟩ := Option.bind_eq_some_iff.1 h
  cases h
  have hword : text <:+ Text.trimStart (takeDash inside).2 := ⟨_, (eq_of_dropWord? htext).symm⟩
  have htrim : Text.trimStart (takeDash inside).2 <:+ (takeDash inside).2 := List.dropWhile_suffix _
  have hdash : (takeDash inside).2 <:+ inside := ⟨_, takeDash_eq inside⟩
  obtain ⟨v, rfl⟩ := hword.trans (htrim.trans hdash)
  refine ⟨v ++ (body ++ dash), ?_⟩
  rw [Text.dropPrefix?_eq_some.1 hinside, eq_of_breakAtTagEnd hcut]
  simp

theorem opens_lineTagsAt : Opens lineTagsAt where
  brace c cs hc := by
    have hnone : Text.dropPrefix? ['{', '%'] (c :: cs) = none := by
      simp [Text.dropPrefix?, Ne.symm hc]
    rw [lineTagsAt_eq, hnone, Option.bind_none]
  takes t new rest h := by
    obtain ⟨u, hu⟩ := eq_of_lineTagsAt h
    exact ⟨_, by simp, hu⟩

/-- A tag of lines has an end. -/
theorem holdsTagEnd_of_lineTagsAt (h : lineTagsAt t ≠ none) : HoldsTagEnd t := by
  obtain ⟨r, hr⟩ := Option.ne_none_iff_exists'.1 h
  obtain ⟨u, hu⟩ := eq_of_lineTagsAt hr
  exact ⟨_, _, hu.symm⟩

/-- A text without the end of a tag has no tags of lines. -/
theorem expandLineTags_eq_self (h : ¬ HoldsTagEnd t) : expandLineTags t = t := by
  refine rewriteAll_eq_self fun s hs => ?_
  by_contra hne
  exact h ((holdsTagEnd_of_lineTagsAt hne).trans hs.isInfix)

end TagEnd

/-! ## Expressions -/

section Expressions

variable {d₁ s d₂ raw : Text}

/-- An expression with what stands between its dashes: a dash behind the opening delimiter belongs
to it, and so does a dash before the closing one. -/
structure Dashed (d₁ s d₂ raw : Text) : Prop where
  spans : Delimiters.expression.Spans raw (d₁ ++ s ++ d₂)
  opening : d₁ = ['-'] ∨ d₁ = [] ∧ (s ++ d₂).head? ≠ some '-'
  closing : d₂ = ['-'] ∨ d₂ = [] ∧ s.getLast? ≠ some '-'

/-- What closes an expression is found at its end, behind its last dash. -/
theorem breakAt_expression (hfirst : ∀ a, a ++ ['}', '}'] <+: s ++ d₂ ++ ['}', '}'] → a = s ++ d₂)
    (hd₂ : d₂ = ['-'] ∨ d₂ = [] ∧ s.getLast? ≠ some '-')
    (hend : ¬ HoldsTagEnd (s ++ d₂ ++ ['}', '}'])) :
    breakAt closeAt? (s ++ d₂ ++ ['}', '}']) = some (s, d₂ ++ ['}', '}'], []) := by
  induction s with
  | nil => rcases hd₂ with rfl | ⟨rfl, -⟩ <;> rfl
  | cons c s ih =>
      have hbehind : ∀ a, a ++ ['}', '}'] <+: s ++ d₂ ++ ['}', '}'] → a = s ++ d₂ := by
        intro a ha
        have hlonger : c :: a ++ ['}', '}'] <+: c :: s ++ d₂ ++ ['}', '}'] := by simpa using ha
        exact (List.cons.inj (hfirst (c :: a) hlonger)).2
      have hlast : d₂ = ['-'] ∨ d₂ = [] ∧ s.getLast? ≠ some '-' := by
        refine hd₂.imp_right fun h => ⟨h.1, fun hs => h.2 ?_⟩
        rw [List.getLast?_cons, hs]
        rfl
      have hends : ¬ HoldsTagEnd (s ++ d₂ ++ ['}', '}']) := by
        exact fun h => hend (h.trans (List.suffix_cons c _).isInfix)
      have hnone : closeAt? (c :: s ++ d₂ ++ ['}', '}']) = none := by
        rw [closeAt?_eq]
        refine firstOf_eq_none fun d hd r hr => ?_
        simp only [List.mem_cons, List.not_mem_nil, or_false] at hd
        rcases hd with rfl | rfl | rfl | rfl
        · -- A dash before the closing braces would have been taken.
          obtain ⟨rfl, hr⟩ := List.cons.inj hr
          have hnil := hbehind [] ⟨r, by simpa using hr.symm⟩
          obtain ⟨rfl, rfl⟩ := List.append_eq_nil_iff.1 hnil.symm
          rcases hd₂ with h | ⟨-, h⟩
          · cases h
          · exact h rfl
        · cases hfirst [] ⟨r, by simpa using hr.symm⟩
        · exact hend ⟨['-'], r, by simpa using hr.symm⟩
        · exact hend ⟨[], r, by simpa using hr.symm⟩
      have hcut := ih hbehind hlast hends
      rw [List.cons_append, List.cons_append] at hnone ⊢
      rw [breakAt, hnone, hcut]
      rfl

theorem openAt?_expression (hd₁ : d₁ = ['-'] ∨ d₁ = [] ∧ s.head? ≠ some '-') (hne : s ≠ []) :
    openAt? (['{', '{'] ++ d₁ ++ s) = some (['{', '{'] ++ d₁, s) := by
  rcases hd₁ with rfl | ⟨rfl, hs⟩
  · rfl
  · cases s with
    | nil => exact absurd rfl hne
    | cons c s =>
        have hc : c ≠ '-' := by
          rintro rfl
          exact hs rfl
        simp [openAt?, hc]

/-- The filters of an expression are rewritten between its dashes. -/
theorem Dashed.callFilters_eq (h : Dashed d₁ s d₂ raw) (hend : ¬ HoldsTagEnd raw) :
    callFilters raw = ['{', '{'] ++ d₁ ++ toCalls s ++ d₂ ++ ['}', '}'] := by
  have hraw : raw = ['{', '{'] ++ d₁ ++ (s ++ d₂ ++ ['}', '}']) := by
    rw [h.spans.raw_eq]
    simp [Delimiters.wrap, Delimiters.expression]
  have hopening : d₁ = ['-'] ∨ d₁ = [] ∧ (s ++ d₂ ++ ['}', '}']).head? ≠ some '-' := by
    refine h.opening.imp_right fun hopen => ⟨hopen.1, ?_⟩
    have hhead := hopen.2
    rw [List.head?_append]
    cases hinside : (s ++ d₂).head? with
    | none => decide
    | some c =>
        rw [hinside] at hhead
        exact hhead
  -- The delimiter that ends the expression is the first one in it.
  have hfirst : ∀ a, a ++ ['}', '}'] <+: s ++ d₂ ++ ['}', '}'] → a = s ++ d₂ := by
    rintro a ⟨r, hr⟩
    have heq := h.spans.first (d₁ ++ a) ⟨r, by simpa [Delimiters.expression] using hr⟩
    rwa [List.append_assoc, List.append_cancel_left_eq] at heq
  have hends : ¬ HoldsTagEnd (s ++ d₂ ++ ['}', '}']) :=
    fun hinside => hend (hraw ▸ hinside.trans (List.suffix_append _ _).isInfix)
  have hrule : constructAt raw =
      some (['{', '{'] ++ d₁ ++ toCalls s ++ (d₂ ++ ['}', '}']), []) := by
    rw [hraw, constructAt_eq, openAt?_expression hopening (by simp), Option.bind_some,
      breakAt_expression hfirst h.closing hends, Option.bind_some]
  have hnil : callFilters [] = [] := by rw [callFilters, rewriteAll]
  have hcalled := rewriteAll_of_some hrule (opens_constructAt.length_lt hrule)
  rw [← callFilters, ← callFilters, hnil, List.append_nil] at hcalled
  rw [hcalled, List.append_assoc _ d₂]

theorem substance_callFilters (t : Text) : substance (callFilters t) = substance t := by
  refine opens_constructAt.rewriteAll_rel (R := fun s t => substance t = substance s)
    rfl (fun c s t hst => ?_) (fun u v s t huv hst => ?_) (fun u new rest h => ?_) t
  · rw [substance_cons, hst, ← substance_cons]
  · rw [substance_append, substance_append, huv, hst]
  · rw [constructAt_eq] at h
    obtain ⟨o, ho, h⟩ := Option.bind_eq_some_iff.1 h
    obtain ⟨r, hr, h⟩ := Option.bind_eq_some_iff.1 h
    cases h
    obtain ⟨t', ht', hclose⟩ := eq_of_breakAt hr
    have hu : u ++ r.2.2 = o.1 ++ r.1 ++ r.2.1 ++ r.2.2 := by
      rw [(eq_of_openAt? ho).1, ht', (eq_of_closeAt? hclose).1]
      simp
    rw [List.append_cancel_right hu]
    simp only [substance_append, toCalls, substance_rewrite]

/-- An expression without the end of a tag is rewritten in its filters and nowhere else, just in
case no include begins in it. -/
theorem prepare_expression_iff (h : Dashed d₁ s d₂ raw) (hend : ¬ HoldsTagEnd raw) :
    prepare raw = ['{', '{'] ++ d₁ ++ toCalls s ++ d₂ ++ ['}', '}'] ↔ ¬ HoldsInclude raw := by
  have hcalled := h.callFilters_eq hend
  rw [prepare, expandLineTags_eq_self hend, ← hcalled]
  constructor
  · intro heq hinclude
    have hlt := length_substance_lt hinclude
    have hsubstance := congrArg substance heq
    rw [substance_callFilters, substance_callFilters] at hsubstance
    rw [hsubstance] at hlt
    exact Nat.lt_irrefl _ hlt
  · intro hnone
    rw [renameIncludes_eq_self hnone]

/-- A brace in quotes closes nothing, and the dashes stay outside. -/
theorem prepare_expression_quotedBrace :
    Dashed ['-'] " x | f: '\x7d'" ['-'] "\x7b\x7b- x | f: '\x7d'-\x7d\x7d" ∧
      ¬ HoldsTagEnd "\x7b\x7b- x | f: '\x7d'-\x7d\x7d" ∧
        ¬ HoldsInclude "\x7b\x7b- x | f: '\x7d'-\x7d\x7d" ∧
          prepare "\x7b\x7b- x | f: '\x7d'-\x7d\x7d" = "\x7b\x7b- x | f('\x7d')-\x7d\x7d" := by
  have hdashed : Dashed ['-'] " x | f: '\x7d'" ['-'] "\x7b\x7b- x | f: '\x7d'-\x7d\x7d" := by
    have hcut : Text.breakOn ['}', '}'] (("- x | f: '\x7d'-" : Text) ++ ['}', '}']) =
        some (("- x | f: '\x7d'-" : Text), []) := rfl
    exact ⟨⟨by decide, ((Text.breakOn_eq_some_iff (List.cons_ne_nil _ _)).1 hcut).2⟩,
      .inl rfl, .inl rfl⟩
  have hend : ¬ HoldsTagEnd "\x7b\x7b- x | f: '\x7d'-\x7d\x7d" := by decide
  have hinclude : ¬ HoldsInclude "\x7b\x7b- x | f: '\x7d'-\x7d\x7d" := by decide
  have hbase : Closed (· ≠ '|') [' ', 'x'] := closed_of_forall (by simp [isQuote])
  have hquoted : Bracketed (fun c => ¬ Parts c) ['\'', '}', '\''] :=
    .literal (u := ['}']) rfl (by decide) .nil
  have hfilter : (FilterArguments.Filter.mk "f" [.positional "'\x7d'"]).Proper :=
    ⟨by decide, List.all_eq_true.1 rfl, List.forall_mem_singleton.2
      ⟨⟨by decide, rfl, hquoted⟩, not_beginsWithKey (by rintro _ ⟨⟩; decide)⟩⟩
  have hcalled : toCalls " x | f: '\x7d'" = " x | f('\x7d')" :=
    (rewrite_append hbase _).trans
      (congrArg ([' ', 'x'] ++ ·) (rewrite_chain (List.forall_mem_singleton.2 hfilter)))
  have hprepare := (prepare_expression_iff hdashed hend).2 hinclude
  rw [hcalled] at hprepare
  exact ⟨hdashed, hend, hinclude, hprepare⟩

end Expressions

end Template
end LiquidMarkdown
