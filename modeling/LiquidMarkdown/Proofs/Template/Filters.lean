import LiquidMarkdown.Proofs.Template.Lexing

/-!
# Filter arguments in a tag

What the rewriting of filter arguments leaves as it is.  This file defines:

* `Inline` — a text with neither the end of a tag nor a line break;
* `Fits` — a text can stand in the place of another: it begins and ends alike and stays inline.

A text with its filters rewritten fits in its own place (`fits_toCalls`); text without quotes and
bars is passed over (`toCalls_append`).
-/

namespace LiquidMarkdown
namespace Template

/-! ## Texts on one line -/

section Inline

variable {s t : Text}

/-- The text holds neither the end of a tag nor a line break. -/
structure Inline (t : Text) : Prop where
  noTagEnd : ¬ HoldsTagEnd t
  noBreak : ∀ c ∈ t, c ≠ '\n' ∧ c ≠ '\r'

instance : DecidablePred Inline := fun t =>
  decidable_of_iff (¬ HoldsTagEnd t ∧ t.all (fun c => c ≠ '\n' ∧ c ≠ '\r') = true)
    ⟨fun h => ⟨h.1, by simpa using h.2⟩, fun h => ⟨h.noTagEnd, by simpa using h.noBreak⟩⟩

theorem inline_append : Inline (s ++ t) ↔
    Inline s ∧ Inline t ∧ ¬ (s.getLast? = some '%' ∧ t.head? = some '}') := by
  constructor
  · intro h
    have hends := h.noTagEnd
    rw [holdsTagEnd_append, not_or, not_or] at hends
    exact ⟨⟨hends.1, fun c hc => h.noBreak c (List.mem_append_left t hc)⟩,
      ⟨hends.2.1, fun c hc => h.noBreak c (List.mem_append_right s hc)⟩, hends.2.2⟩
  · rintro ⟨hs, ht, hbetween⟩
    refine ⟨?_, fun c hc => (List.mem_append.1 hc).elim (hs.noBreak c) (ht.noBreak c)⟩
    rw [holdsTagEnd_append, not_or, not_or]
    exact ⟨hs.noTagEnd, ht.noTagEnd, hbetween⟩

theorem Inline.of_infix (h : Inline t) (hs : s <:+: t) : Inline s :=
  ⟨fun hend => h.noTagEnd (hend.trans hs), fun c hc => h.noBreak c (hs.subset hc)⟩

theorem inline_nil : Inline [] :=
  ⟨by simp [HoldsTagEnd], by simp⟩

theorem inline_space : Inline [' '] := by
  decide

theorem inline_word (hs : ∀ c ∈ s, Unicode.isWord c = true) : Inline s where
  noTagEnd hend := absurd (hs '%' (hend.subset List.mem_cons_self)) (by decide)
  noBreak c hc := by constructor <;> rintro rfl <;> exact absurd (hs _ hc) (by decide)

/-- A text on one line can stand between spaces in a tag. -/
theorem Inline.spaced (h : Inline s) : Inline (' ' :: (s ++ [' '])) :=
  inline_append.2 ⟨inline_space, inline_append.2 ⟨h, inline_space, by simp⟩, by simp⟩

theorem Inline.inside_spaced (h : Inline s) : Inside (' ' :: (s ++ [' '])) := by
  refine ⟨h.spaced.noTagEnd, fun x hx => ?_⟩
  rw [← List.cons_append, List.getLast?_append] at hx
  cases hx
  rfl

end Inline

/-! ## In the place of another text -/

/-- The text `t'` can stand in the place of `t`: it begins alike, it ends alike or with a
parenthesis in place of something that is no blank, and it stays on one line.  Where something is
changed, a brace, a bar or a low line shows it. -/
structure Fits (t t' : Text) : Prop where
  head : t'.head? = t.head?
  last : t'.getLast? = t.getLast? ∨
    t'.getLast? = some ')' ∧ ∀ c ∈ t.getLast?, Text.isBlank c = false
  inline : Inline t → Inline t'
  shown : t' = t ∨ ∃ c ∈ t', c = '{' ∨ c = '|' ∨ c = '_'

namespace Fits

variable {s s' t t' : Text}

theorem refl (t : Text) : Fits t t :=
  ⟨rfl, .inl rfl, id, .inl rfl⟩

theorem nil_iff (h : Fits t t') : t' = [] ↔ t = [] := by
  rw [← List.head?_eq_none_iff, ← List.head?_eq_none_iff, h.head]

theorem append (hs : Fits s s') (ht : Fits t t') : Fits (s ++ t) (s' ++ t') where
  head := by rw [List.head?_append, List.head?_append, hs.head, ht.head]
  last := by
    rcases List.eq_nil_or_concat t with rfl | ⟨v, c, rfl⟩
    · rw [ht.nil_iff.2 rfl, List.append_nil, List.append_nil]
      exact hs.last
    · rcases ht.last with h | ⟨h, hblank⟩
      · left
        rw [List.getLast?_append, List.getLast?_append, h]
        simp
      · right
        rw [List.getLast?_append, h]
        refine ⟨rfl, fun x hx => hblank x ?_⟩
        simpa [List.getLast?_append] using hx
  inline h := by
    obtain ⟨h₁, h₂, hbetween⟩ := inline_append.1 h
    refine inline_append.2 ⟨hs.inline h₁, ht.inline h₂, fun ⟨hpercent, hbrace⟩ => hbetween ⟨?_, ?_⟩⟩
    · rcases hs.last with h | ⟨h, -⟩
      · exact h ▸ hpercent
      · rw [h] at hpercent
        cases hpercent
    · exact ht.head ▸ hbrace
  shown := by
    rcases hs.shown with rfl | ⟨c, hc, hshown⟩
    · rcases ht.shown with rfl | ⟨c, hc, hshown⟩
      · exact .inl rfl
      · exact .inr ⟨c, List.mem_append_right _ hc, hshown⟩
    · exact .inr ⟨c, List.mem_append_left _ hc, hshown⟩

theorem trans {t'' : Text} (h : Fits t t') (h' : Fits t' t'') : Fits t t'' where
  head := h'.head.trans h.head
  last := by
    rcases h'.last with hlast' | ⟨hlast', hblank'⟩
    · rcases h.last with hlast | ⟨hlast, hblank⟩
      · exact .inl (hlast'.trans hlast)
      · exact .inr ⟨hlast'.trans hlast, hblank⟩
    · rcases h.last with hlast | ⟨-, hblank⟩
      · exact .inr ⟨hlast', hlast ▸ hblank'⟩
      · exact .inr ⟨hlast', hblank⟩
  inline := fun ht => h'.inline (h.inline ht)
  shown := by
    rcases h'.shown with rfl | hshown
    · exact h.shown
    · exact .inr hshown

theorem cons (c : Char) (h : Fits t t') : Fits (c :: t) (c :: t') :=
  (refl [c]).append h

/-- What ends with a blank still does. -/
theorem inside (h : Fits t t') (ht : Inside t) (hline : Inline t) : Inside t' := by
  refine ⟨(h.inline hline).noTagEnd, fun x hx => ?_⟩
  rcases h.last with hlast | ⟨hlast, hblank⟩
  · exact ht.last x (hlast ▸ hx)
  · cases hl : t.getLast? with
    | none =>
        rw [List.getLast?_eq_none_iff] at hl
        rw [h.nil_iff.2 hl] at hx
        cases hx
    | some c =>
        have hc := ht.last c hl
        have hc' := hblank c hl
        rw [hc] at hc'
        cases hc'

end Fits

/-! ## Filters -/

namespace FilterArguments

/-! ### Arguments -/

theorem infix_of_mem_fields {t f : Text} (h : f ∈ fields t) : f <:+: t := by
  fun_induction fields t with
  | case1 t r hr =>
      cases List.mem_singleton.1 h
      exact (List.prefix_append r.1 r.2).isInfix.trans (breakAtTop_append .. ▸ List.infix_rfl)
  | case2 t r c rest hr ih =>
      have ht : r.1 ++ c :: rest = t := hr ▸ breakAtTop_append ..
      rcases List.mem_cons.1 h with rfl | h
      · exact ht ▸ (List.prefix_append r.1 _).isInfix
      · refine (ih h).trans (ht ▸ List.IsSuffix.isInfix ?_)
        exact (List.suffix_cons c rest).trans (List.suffix_append r.1 _)

theorem infix_trim (t : Text) : Text.trim t <:+: t := by
  have hend : Text.trim t <+: Text.trimStart t :=
    ⟨_, Text.dropEnd_append_takeEnd Text.isBlank (Text.trimStart t)⟩
  exact hend.isInfix.trans (List.dropWhile_suffix _).isInfix

theorem infix_of_mem_split {t a : Text} (h : a ∈ split t) : a <:+: t := by
  obtain ⟨f, hf, rfl⟩ := List.mem_map.1 (List.mem_of_mem_filter h)
  exact (infix_trim f).trans (infix_of_mem_fields hf)

/-- An argument for the expression grammar stays on one line. -/
theorem inline_asArgument {a : Text} (h : Inline a) : Inline (asArgument a) := by
  unfold asArgument
  dsimp only
  split
  · next value hvalue =>
      split
      · exact h
      · have hsuffix : Text.trimStart value <:+ a := by
          have hcolon : value <:+ Text.trimStart (a.dropWhile Unicode.isWord) :=
            hvalue ▸ List.suffix_cons ':' value
          exact (List.dropWhile_suffix _).trans
            (hcolon.trans ((List.dropWhile_suffix _).trans (List.dropWhile_suffix _)))
        have hkey := h.of_infix (List.takeWhile_prefix Unicode.isWord).isInfix
        have hequals : Inline ['='] := by decide
        have hbehind := inline_append.2 ⟨hequals, h.of_infix hsuffix.isInfix, by simp⟩
        exact inline_append.2 ⟨hkey, hbehind, by simp⟩
  · exact h

theorem inline_joinWith {as : List Text} (h : ∀ a ∈ as, Inline a) :
    Inline (Text.joinWith ", " as) := by
  induction as with
  | nil => exact inline_nil
  | cons a as ih =>
      cases as with
      | nil =>
          rw [Text.joinWith, List.intercalate_singleton]
          exact h a (List.mem_singleton_self a)
      | cons b as =>
          have hcomma : Inline (", " : Text) := by decide
          have ha := inline_append.2 ⟨h a List.mem_cons_self, hcomma, by simp⟩
          rw [Text.joinWith, List.intercalate_cons_cons]
          exact inline_append.2 ⟨ha, ih fun x hx => h x (List.mem_cons_of_mem a hx), by simp⟩

/-! ### Calls -/

/-- A filter with arguments is a name between blanks, with a colon behind it. -/
theorem exists_of_head? {t name rest : Text} (h : head? t = some (name, rest)) :
    ∃ a b, t = a ++ name ++ b ++ ':' :: rest ∧ (∀ c ∈ a, Text.isBlank c = true) ∧
      (∀ c ∈ b, Text.isBlank c = true) ∧ ∀ c ∈ name, Unicode.isWord c = true := by
  simp only [head?] at h
  split at h
  · next r hr =>
      split at h
      · cases h
      · cases h
        refine ⟨t.takeWhile Text.isBlank,
          ((Text.trimStart t).dropWhile Unicode.isWord).takeWhile Text.isBlank, ?_, ?_, ?_, ?_⟩
        · have hname :=
            List.takeWhile_append_dropWhile (p := Unicode.isWord) (l := Text.trimStart t)
          rw [← hr, List.append_assoc, List.append_assoc, Text.takeWhile_append_dropStart, hname,
            Text.takeWhile_append_dropStart]
        · exact List.all_eq_true.1 List.all_takeWhile
        · exact List.all_eq_true.1 List.all_takeWhile
        · exact List.all_eq_true.1 List.all_takeWhile
  · cases h

theorem inline_call {name args : Text} (hname : Inline name) (hargs : Inline args) :
    Inline (call name args) := by
  have hbar : Inline ['|', ' '] := by decide
  have hopen : Inline ['('] := by decide
  have hclose : Inline [')'] := by decide
  have harguments : Inline (Text.joinWith ", " ((split args).map asArgument)) := by
    refine inline_joinWith fun a ha => ?_
    obtain ⟨b, hb, rfl⟩ := List.mem_map.1 ha
    exact inline_asArgument (hargs.of_infix (infix_of_mem_split hb))
  have hblanks : Inline (Text.takeEnd Text.isBlank args) :=
    hargs.of_infix (List.IsSuffix.isInfix ⟨_, Text.dropEnd_append_takeEnd Text.isBlank args⟩)
  have hstart := inline_append.2 ⟨hbar, hname, by simp⟩
  have hinner := inline_append.2 ⟨hopen, harguments, by simp⟩
  have hend := inline_append.2 ⟨hclose, hblanks, by simp⟩
  exact inline_append.2 ⟨inline_append.2 ⟨hstart, hinner, by simp⟩, hend, by simp⟩

/-- A call ends with the blanks behind its arguments, or with its parenthesis. -/
theorem getLast?_call (name args : Text) :
    (∃ c, args.getLast? = some c ∧ (call name args).getLast? = some c) ∨
    (call name args).getLast? = some ')' ∧ ∀ c ∈ args.getLast?, Text.isBlank c = false := by
  have hlast : (call name args).getLast? =
      (Text.takeEnd Text.isBlank args).getLast?.or (some ')') := by
    rw [call, List.getLast?_append, List.getLast?_cons]
    cases (Text.takeEnd Text.isBlank args).getLast? <;> rfl
  rw [hlast]
  rcases List.eq_nil_or_concat args with rfl | ⟨v, c, rfl⟩
  · exact .inr ⟨rfl, by simp⟩
  · by_cases hc : Text.isBlank c = true
    · left
      simp [Text.takeEnd, hc]
    · right
      simp [Text.takeEnd, hc]

/-- A call fits in the place of the filter that it is made of. -/
theorem fits_call (a name b args : Text) :
    Fits ('|' :: (a ++ name ++ b ++ ':' :: args)) (call name args) where
  head := rfl
  last := by
    have hlast :
        ('|' :: (a ++ name ++ b ++ ':' :: args)).getLast? = args.getLast?.or (some ':') := by
      rw [← List.cons_append, List.getLast?_append, List.getLast?_cons]
      cases args.getLast? <;> rfl
    rw [hlast]
    rcases getLast?_call name args with ⟨c, hargs, h⟩ | ⟨h, hblank⟩
    · rw [hargs]
      exact .inl h
    · refine .inr ⟨h, fun c hc => ?_⟩
      cases hargs : args.getLast? with
      | none =>
          rw [hargs] at hc
          cases hc
          rfl
      | some d =>
          rw [hargs] at hc
          cases hc
          exact hblank c hargs
  inline h := by
    have hname : name <:+: '|' :: (a ++ name ++ b ++ ':' :: args) :=
      ⟨'|' :: a, b ++ ':' :: args, by simp⟩
    have hargs : args <:+: '|' :: (a ++ name ++ b ++ ':' :: args) :=
      ⟨'|' :: (a ++ name ++ b ++ [':']), [], by simp⟩
    exact inline_call (h.of_infix hname) (h.of_infix hargs)
  shown := .inr ⟨'|', List.mem_cons_self, .inr (.inl rfl)⟩

/-- A text with its filters rewritten fits in its own place. -/
theorem fits_rewrite (quote : Option Char) (t : Text) : Fits t (rewrite quote t) := by
  fun_induction rewrite quote t with
  | case1 => exact .refl []
  | case2 c cs q ih => exact ih.cons c
  | case3 c cs _ ih => exact ih.cons c
  | case4 cs name rest hhead r _ ih =>
      obtain ⟨a, b, rfl, -⟩ := exists_of_head? hhead
      have hrest : r.1 ++ r.2 = rest := breakAtTop_append ..
      have hfits := (fits_call a name b r.1).append ih
      rwa [List.cons_append, List.append_assoc, List.cons_append, hrest] at hfits
  | case5 cs _ _ ih => exact ih.cons '|'
  | case6 c cs _ _ ih => exact ih.cons c

theorem fits_toCalls (t : Text) : Fits t (toCalls t) :=
  fits_rewrite none t

/-- Text without quotes and bars is passed over. -/
theorem toCalls_append {s : Text} (hs : ∀ c ∈ s, isQuote c = false ∧ c ≠ '|') (t : Text) :
    toCalls (s ++ t) = s ++ toCalls t := by
  induction s with
  | nil => rfl
  | cons c s ih =>
      obtain ⟨hquote, hbar⟩ := hs c List.mem_cons_self
      have hrest := ih fun x hx => hs x (List.mem_cons_of_mem c hx)
      rw [toCalls] at hrest ⊢
      rw [List.cons_append, rewrite, if_neg (Bool.not_eq_true _ ▸ hquote), if_neg hbar, hrest,
        List.cons_append, toCalls]

end FilterArguments

end Template
end LiquidMarkdown
