import LiquidMarkdown.Template.FilterArguments
import LiquidMarkdown.Template.Token.Scan

/-!
# Lexemes end at blanks

No lexeme but a string literal goes beyond a blank.  This file defines:

* `Takes` — a reader of texts that takes something from their start;
* `Stops` — a reader that makes of a text with a blank behind it what it makes of the text;
* `lexemeAt` — the lexeme at the start of a text, which depends on nothing else than whether the
  character before it is a point.

`lexemeAt_append` is about a text with a blank and anything else behind it.
-/

namespace LiquidMarkdown
namespace Template

variable {α : Type}

/-- The reader takes something from the start of the text. -/
def Takes (f : Text → Option (α × Text)) : Prop :=
  ∀ t a r, f t = some (a, r) → ∃ u, u ≠ [] ∧ t = u ++ r

/-- What stands behind a blank does not matter to the reader. -/
def Stops (f : Text → Option (α × Text)) : Prop :=
  ∀ t z, f (t ++ ' ' :: z) = (f t).map fun r => (r.1, r.2 ++ ' ' :: z)

theorem Takes.or {f g : Text → Option (α × Text)} (hf : Takes f) (hg : Takes g) :
    Takes fun t => (f t).or (g t) := by
  intro t a r h
  rcases Option.or_eq_some_iff.1 h with h | ⟨-, h⟩
  · exact hf t a r h
  · exact hg t a r h

/-- What is found stands behind the text before it. -/
theorem eq_of_breakAt {at? : Text → Option α} {t b : Text} {a : α}
    (h : breakAt at? t = some (b, a)) : ∃ s, t = b ++ s ∧ at? s = some a := by
  induction t generalizing b with
  | nil =>
      obtain ⟨a', ha, heq⟩ := Option.map_eq_some_iff.1 h
      cases heq
      exact ⟨[], rfl, ha⟩
  | cons c t ih =>
      rw [breakAt] at h
      split at h
      · next ha =>
          cases h
          exact ⟨c :: t, rfl, ha⟩
      · obtain ⟨⟨b', a'⟩, hb, heq⟩ := Option.map_eq_some_iff.1 h
        cases heq
        obtain ⟨s, rfl, ha⟩ := ih hb
        exact ⟨s, rfl, ha⟩

/-! ## Numbers -/

namespace Number

/-- Neither a blank nor a low line has a value. -/
structure IsDigitTable (value? : Char → Option Nat) : Prop where
  blank : value? ' ' = none
  low : value? '_' = none

theorem isDigitTable_decimalValue? : IsDigitTable Unicode.decimalValue? :=
  ⟨by decide, by decide⟩

theorem isDigitTable_hexValue? : IsDigitTable hexValue? :=
  ⟨by decide, by decide⟩

theorem isDigitTable_lowDigit? (base : Nat) : IsDigitTable (lowDigit? base) :=
  ⟨rfl, rfl⟩

theorem isDigitTable_of_baseOf? {c : Char} {base : Nat} {value? : Char → Option Nat}
    (h : baseOf? c = some (base, value?)) : IsDigitTable value? := by
  unfold baseOf? at h
  split at h
  · cases h
    exact isDigitTable_lowDigit? 2
  · split at h
    · cases h
      exact isDigitTable_lowDigit? 8
    · split at h
      · cases h
        exact isDigitTable_hexValue?
      · cases h

variable {value? : Char → Option Nat}

theorem suffix_digits (value? : Char → Option Nat) (t : Text) : (digits value? t).2 <:+ t := by
  fun_induction digits value? t with
  | case1 => exact List.suffix_rfl
  | case2 c cs n hc ds rest hds ih =>
      rw [hds] at ih
      exact (ih.trans (List.suffix_cons ..)).trans (List.suffix_cons ..)
  | case3 c cs hc => exact List.suffix_rfl
  | case4 c cs hlow n hc ds rest hds ih =>
      rw [hds] at ih
      exact ih.trans (List.suffix_cons ..)
  | case5 c cs hlow hc => exact List.suffix_rfl

theorem digits_append (h : IsDigitTable value?) (t z : Text) :
    digits value? (t ++ ' ' :: z) = ((digits value? t).1, (digits value? t).2 ++ ' ' :: z) := by
  fun_induction digits value? t with
  | case1 => simp [digits, h.blank]
  | case2 c cs n hc ds rest hds ih =>
      rw [hds] at ih
      simp [digits, hc, ih]
  | case3 c cs hc => simp [digits, hc]
  | case4 c cs hlow n hc ds rest hds ih =>
      have hne : c ≠ '_' := by
        rintro rfl
        rw [h.low] at hc
        cases hc
      rw [hds] at ih
      simp [digits, hc, ih, hne]
  | case5 c cs hlow hc =>
      by_cases hne : c = '_'
      · subst hne
        cases cs with
        | nil => simp [digits, h.blank]
        | cons d cs => exact absurd rfl (hlow d cs rfl)
      · simp [digits, hc, hne]

theorem takes_decimalRun? : Takes decimalRun? := by
  intro t ds r h
  cases t with
  | nil => cases h
  | cons c cs =>
      simp only [decimalRun?] at h
      split at h
      · cases h
        obtain ⟨u, hu⟩ := suffix_digits Unicode.decimalValue? cs
        exact ⟨c :: u, List.cons_ne_nil _ _, by rw [List.cons_append, hu]⟩
      · cases h

theorem stops_decimalRun? : Stops decimalRun? := by
  intro t z
  cases t with
  | nil => rfl
  | cons c cs =>
      rw [List.cons_append, decimalRun?, decimalRun?, digits_append isDigitTable_decimalValue?]
      split <;> rfl

theorem takes_fraction? : Takes fraction? := by
  intro t ds r h
  unfold fraction? at h
  split at h
  · next cs =>
      obtain ⟨u, -, rfl⟩ := takes_decimalRun? cs ds r h
      exact ⟨'.' :: u, List.cons_ne_nil _ _, rfl⟩
  · cases h

theorem stops_fraction? : Stops fraction? := by
  intro t z
  cases t with
  | nil => rfl
  | cons c cs =>
      by_cases hc : c = '.'
      · subst hc
        exact stops_decimalRun? cs z
      · simp [fraction?, hc]

theorem takes_exponent? {t : Text} {negative : Bool} {ds : List Char} {r : Text}
    (h : exponent? t = some (negative, ds, r)) : ∃ u, u ≠ [] ∧ t = u ++ r := by
  have hrun (sign : Text) (cs : Text) (c : Char) (negative' : Bool)
      (hcs : (decimalRun? cs).map (fun r => (negative', r.1, r.2)) = some (negative, ds, r)) :
      ∃ u, u ≠ [] ∧ c :: (sign ++ cs) = u ++ r := by
    obtain ⟨⟨ds', r'⟩, hr, heq⟩ := Option.map_eq_some_iff.1 hcs
    obtain ⟨u, -, rfl⟩ := takes_decimalRun? cs ds' r' hr
    cases heq
    exact ⟨c :: (sign ++ u), List.cons_ne_nil _ _, by simp⟩
  cases t with
  | nil => cases h
  | cons c cs =>
      simp only [exponent?] at h
      split at h
      · split at h
        · exact hrun ['-'] _ c _ h
        · exact hrun ['+'] _ c _ h
        · exact hrun [] cs c _ h
      · cases h

theorem stops_exponent? (t z : Text) : exponent? (t ++ ' ' :: z) =
    (exponent? t).map fun r => (r.1, r.2.1, r.2.2 ++ ' ' :: z) := by
  have hrun (negative : Bool) (cs : Text) :
      (decimalRun? (cs ++ ' ' :: z)).map (fun r => (negative, r.1, r.2)) =
        ((decimalRun? cs).map fun r => (negative, r.1, r.2)).map
          fun r => (r.1, r.2.1, r.2.2 ++ ' ' :: z) := by
    rw [stops_decimalRun?, Option.map_map, Option.map_map]
    rfl
  cases t with
  | nil => rfl
  | cons c cs =>
      rw [List.cons_append]
      unfold exponent?
      dsimp only
      split
      · cases cs with
        | nil => rfl
        | cons d cs =>
            by_cases hminus : d = '-'
            · subst hminus
              exact hrun true cs
            · by_cases hplus : d = '+'
              · subst hplus
                exact hrun false cs
              · simpa [hminus, hplus] using hrun false (d :: cs)
      · rfl

theorem takes_float? (previous : Char) : Takes (float? previous) := by
  intro t k r h
  unfold float? at h
  -- A float is a run of digits with a fraction or an exponent behind it, or with both.
  split at h
  · cases h
  · cases hrun : decimalRun? t with
    | none =>
        rw [hrun] at h
        cases h
    | some w =>
        rcases w with ⟨whole, afterWhole⟩
        obtain ⟨u, hu, rfl⟩ := takes_decimalRun? t whole afterWhole hrun
        rw [hrun] at h
        simp only [Option.bind_eq_bind, Option.bind_some] at h
        split at h
        · next frac afterFrac hfrac =>
            obtain ⟨v, -, rfl⟩ := takes_fraction? _ _ _ hfrac
            split at h
            · next negative ds rest hexp =>
                obtain ⟨w, -, rfl⟩ := takes_exponent? hexp
                cases h
                exact ⟨u ++ (v ++ w), by simp [hu], by simp⟩
            · cases h
              exact ⟨u ++ v, by simp [hu], by simp⟩
        · cases hexp : exponent? afterWhole with
          | none =>
              rw [hexp] at h
              cases h
          | some e =>
              rcases e with ⟨negative, ds, rest⟩
              obtain ⟨w, -, rfl⟩ := takes_exponent? hexp
              rw [hexp] at h
              cases h
              exact ⟨u ++ w, by simp [hu], by simp⟩

theorem stops_float? (previous : Char) : Stops (float? previous) := by
  intro t z
  unfold float?
  split
  · rfl
  · rw [stops_decimalRun?]
    cases decimalRun? t with
    | none => rfl
    | some w =>
        rcases w with ⟨whole, afterWhole⟩
        simp only [Option.map_some, Option.bind_eq_bind, Option.bind_some,
          stops_fraction? afterWhole z]
        cases fraction? afterWhole with
        | none =>
            simp only [Option.map_none, stops_exponent?]
            cases exponent? afterWhole <;> rfl
        | some f =>
            rcases f with ⟨frac, afterFrac⟩
            simp only [Option.map_some, stops_exponent?]
            cases exponent? afterFrac <;> rfl

theorem takes_decimal? : Takes decimal? := by
  intro t k r h
  cases t with
  | nil => cases h
  | cons c cs =>
      simp only [decimal?] at h
      split at h
      · cases h
        obtain ⟨u, hu⟩ := suffix_digits (lowDigit? 1) cs
        exact ⟨c :: u, List.cons_ne_nil _ _, by rw [List.cons_append, hu]⟩
      · split at h
        · cases h
          obtain ⟨u, hu⟩ := suffix_digits Unicode.decimalValue? cs
          exact ⟨c :: u, List.cons_ne_nil _ _, by rw [List.cons_append, hu]⟩
        · cases h

theorem stops_decimal? : Stops decimal? := by
  intro t z
  cases t with
  | nil => rfl
  | cons c cs =>
      rw [List.cons_append, decimal?, decimal?, digits_append (isDigitTable_lowDigit? 1),
        digits_append isDigitTable_decimalValue?]
      split
      · rfl
      · split <;> rfl

theorem takes_integer? : Takes integer? := by
  intro t k r h
  unfold integer? at h
  split at h
  · next c cs =>
      split at h
      · next base value? hbase =>
          split at h
          · exact takes_decimal? _ _ _ h
          · next ds rest hdigits hds =>
              cases h
              obtain ⟨u, hu⟩ := suffix_digits value? cs
              rw [hds] at hu
              exact ⟨'0' :: c :: u, List.cons_ne_nil _ _, by simp [hu]⟩
      · exact takes_decimal? _ _ _ h
  · exact takes_decimal? _ _ _ h

theorem stops_integer? : Stops integer? := by
  intro t z
  cases t with
  | nil => rfl
  | cons c cs =>
      by_cases hc : c = '0'
      · subst hc
        cases cs with
        | nil =>
            have hblank : baseOf? ' ' = none := rfl
            simpa [integer?, hblank] using stops_decimal? ['0'] z
        | cons d cs =>
            simp only [List.cons_append, integer?]
            cases hbase : baseOf? d with
            | none => exact stops_decimal? ('0' :: d :: cs) z
            | some b =>
                rcases b with ⟨base, value?⟩
                dsimp only
                rw [digits_append (isDigitTable_of_baseOf? hbase)]
                rcases digits value? cs with ⟨ds, rest⟩
                cases ds with
                | nil => exact stops_decimal? ('0' :: d :: cs) z
                | cons e ds => rfl
      · simpa [integer?, hc] using stops_decimal? (c :: cs) z

end Number

/-! ## Names, operators and strings -/

theorem takes_name? : Takes Cursor.name? := by
  intro t k r h
  unfold Cursor.name? at h
  have ht := List.takeWhile_append_dropWhile (p := Unicode.isNameCharacter) (l := t)
  split at h
  · cases h
  · next name hne =>
      refine ⟨t.takeWhile Unicode.isNameCharacter, hne, ?_⟩
      split at h <;> cases h <;> exact ht.symm

theorem takeWhile_append_blank {p : Char → Bool} (hp : p ' ' = false) (t z : Text) :
    (t ++ ' ' :: z).takeWhile p = t.takeWhile p := by
  induction t with
  | nil => simp [hp]
  | cons c cs ih => simp only [List.cons_append, List.takeWhile_cons, ih]

theorem dropWhile_append_blank {p : Char → Bool} (hp : p ' ' = false) (t z : Text) :
    (t ++ ' ' :: z).dropWhile p = t.dropWhile p ++ ' ' :: z := by
  induction t with
  | nil => simp [hp]
  | cons c cs ih =>
      simp only [List.cons_append, List.dropWhile_cons, ih]
      split <;> rfl

theorem stops_name? : Stops Cursor.name? := by
  intro t z
  have hblank : Unicode.isNameCharacter ' ' = false := by decide +kernel
  unfold Cursor.name?
  rw [takeWhile_append_blank hblank, dropWhile_append_blank hblank]
  split
  · rfl
  · dsimp only
    split <;> rfl

theorem eq_of_read? {t r : Text} {o : Operator} (h : Operator.read? t = some (o, r)) :
    t = o.symbol ++ r := by
  obtain ⟨o', -, ho⟩ := List.exists_of_findSome?_eq_some h
  obtain ⟨rest, hrest, heq⟩ := Option.map_eq_some_iff.1 ho
  cases heq
  exact Text.dropPrefix?_eq_some.1 hrest

theorem exists_symbol_eq_cons (o : Operator) :
    ∃ c cs, o.symbol = c :: cs ∧ FilterArguments.isQuote c = false := by
  cases o <;> exact ⟨_, _, rfl, rfl⟩

theorem dropPrefix?_append_blank {p : Text} (hp : ' ' ∉ p) (t z : Text) :
    Text.dropPrefix? p (t ++ ' ' :: z) = (Text.dropPrefix? p t).map (· ++ ' ' :: z) := by
  induction p generalizing t with
  | nil => rfl
  | cons a p ih =>
      rw [List.mem_cons, not_or] at hp
      cases t with
      | nil => exact if_neg (Ne.symm hp.1)
      | cons c cs =>
          simp only [List.cons_append, Text.dropPrefix?, ih hp.2]
          split <;> rfl

theorem stops_read? : Stops Operator.read? := by
  intro t z
  have hsymbol : ∀ o : Operator, ' ' ∉ o.symbol := by
    intro o
    cases o <;> decide
  unfold Operator.read?
  induction Operator.all with
  | nil => rfl
  | cons o os ih =>
      rw [List.findSome?_cons, List.findSome?_cons, dropPrefix?_append_blank (hsymbol o), ih]
      cases Text.dropPrefix? o.symbol t <;> rfl

/-! ### String literals -/

section Strings

variable {quote : Char} {t z s r : Text}

theorem eq_of_stringInside? (h : Cursor.stringInside? quote t = some (s, r)) :
    t = s ++ quote :: r := by
  fun_induction Cursor.stringInside? quote t generalizing s r with
  | case1 => cases h
  | case2 c cs ih =>
      obtain ⟨⟨s', r'⟩, hs, heq⟩ := Option.map_eq_some_iff.1 h
      cases heq
      rw [ih hs]
      rfl
  | case3 cs _ =>
      cases h
      rfl
  | case4 cs _ hquote => cases h
  | case5 c cs _ hquote hslash ih =>
      obtain ⟨⟨s', r'⟩, hs, heq⟩ := Option.map_eq_some_iff.1 h
      cases heq
      rw [ih hs]
      rfl

/-- A closing quote that is found is found with anything behind the text. -/
theorem stringInside?_append (hquote : quote ≠ '\\') (z : Text)
    (h : Cursor.stringInside? quote t = some (s, r)) :
    Cursor.stringInside? quote (t ++ z) = some (s, r ++ z) := by
  fun_induction Cursor.stringInside? quote t generalizing s r with
  | case1 => cases h
  | case2 c cs ih =>
      obtain ⟨⟨s', r'⟩, hs, heq⟩ := Option.map_eq_some_iff.1 h
      cases heq
      simp [Cursor.stringInside?, ih hs]
  | case3 cs _ =>
      cases h
      simp [Cursor.stringInside?, hquote]
  | case4 cs _ _ => cases h
  | case5 c cs _ hne hslash ih =>
      obtain ⟨⟨s', r'⟩, hs, heq⟩ := Option.map_eq_some_iff.1 h
      cases heq
      simp [Cursor.stringInside?, hne, hslash, ih hs]

/-- A closing quote that is not found is not found behind the text either, if there is none. -/
theorem stringInside?_append_eq_none (hz : quote ∉ z)
    (h : Cursor.stringInside? quote t = none) : Cursor.stringInside? quote (t ++ z) = none := by
  have hnone : ∀ u : Text, quote ∉ u → Cursor.stringInside? quote u = none := by
    intro u hu
    refine Option.eq_none_iff_forall_ne_some.2 fun p hp => hu ?_
    rw [eq_of_stringInside? hp]
    simp
  fun_induction Cursor.stringInside? quote t with
  | case1 => exact hnone z hz
  | case2 c cs ih => simp [Cursor.stringInside?, ih (Option.map_eq_none_iff.1 h)]
  | case3 cs _ => cases h
  | case4 cs hcs hne =>
      cases cs with
      | cons d cs => exact absurd rfl (hcs d cs rfl)
      | nil =>
          cases z with
          | nil => simp [Cursor.stringInside?, hne]
          | cons d z =>
              have hz' := hnone z fun hmem => hz (List.mem_cons_of_mem d hmem)
              simp [Cursor.stringInside?, hz']
  | case5 c cs _ hne hslash ih =>
      simp [Cursor.stringInside?, hne, hslash, ih (Option.map_eq_none_iff.1 h)]

end Strings

theorem takes_string? : Takes Cursor.string? := by
  intro t k r h
  cases t with
  | nil => cases h
  | cons c cs =>
      simp only [Cursor.string?] at h
      split at h
      · obtain ⟨⟨s, r'⟩, hs, heq⟩ := Option.map_eq_some_iff.1 h
        have hr : r' = r := by
          dsimp only at heq
          split at heq <;> exact (Prod.mk.inj heq).2
        subst hr
        rw [eq_of_stringInside? hs]
        exact ⟨c :: s ++ [c], by simp, by simp⟩
      · cases h

/-- A string literal that is closed is the same with anything behind it. -/
theorem string?_append {t r : Text} {k : Token.Kind} (z : Text)
    (h : Cursor.string? t = some (k, r)) : Cursor.string? (t ++ z) = some (k, r ++ z) := by
  cases t with
  | nil => cases h
  | cons c cs =>
      simp only [List.cons_append, Cursor.string?] at h ⊢
      split at h
      · next hquote =>
          have hne : c ≠ '\\' := by
            rintro rfl
            cases hquote
          obtain ⟨⟨s, r'⟩, hs, heq⟩ := Option.map_eq_some_iff.1 h
          rw [if_pos hquote, stringInside?_append hne z hs]
          dsimp only [Option.map_some] at heq ⊢
          split at heq <;> cases heq <;> rfl
      · cases h

/-- Where no string literal is found, none is with a text behind it that does not close it. -/
theorem string?_append_eq_none {t z : Text} (hne : t ≠ [])
    (hz : ∀ q ∈ t.head?, FilterArguments.isQuote q = true → q ∉ z) (h : Cursor.string? t = none) :
    Cursor.string? (t ++ z) = none := by
  cases t with
  | nil => exact absurd rfl hne
  | cons c cs =>
      simp only [List.cons_append, Cursor.string?] at h ⊢
      split at h
      · next hquote =>
          rw [if_pos hquote,
            stringInside?_append_eq_none (hz c rfl hquote) (Option.map_eq_none_iff.1 h)]
          rfl
      · next hquote => rw [if_neg hquote]

/-! ## Lexemes -/

/-- The lexeme at the start of a text that is no operator. -/
def literal? (previous : Char) (t : Text) : Option (Token.Kind × Text) :=
  (Number.float? previous t).or ((Number.integer? t).or ((Cursor.name? t).or (Cursor.string? t)))

theorem takes_literal? (previous : Char) : Takes (literal? previous) :=
  (Number.takes_float? previous).or (Number.takes_integer?.or (takes_name?.or takes_string?))

theorem literal?_append {previous : Char} {t r : Text} {k : Token.Kind}
    (h : literal? previous t = some (k, r)) (z : Text) :
    literal? previous (t ++ ' ' :: z) = some (k, r ++ ' ' :: z) := by
  unfold literal? at h ⊢
  rw [Number.stops_float? previous t z, Number.stops_integer? t z, stops_name? t z]
  cases hf : Number.float? previous t with
  | some w =>
      rw [hf] at h
      cases h
      rfl
  | none =>
      cases hi : Number.integer? t with
      | some w =>
          rw [hf, hi] at h
          cases h
          rfl
      | none =>
          cases hn : Cursor.name? t with
          | some w =>
              rw [hf, hi, hn] at h
              cases h
              rfl
          | none =>
              rw [hf, hi, hn] at h
              exact string?_append (' ' :: z) h

theorem literal?_append_eq_none {previous : Char} {t z : Text} (hne : t ≠ [])
    (hz : ∀ q ∈ t.head?, FilterArguments.isQuote q = true → q ∉ z)
    (h : literal? previous t = none) :
    literal? previous (t ++ ' ' :: z) = none := by
  simp only [literal?, Option.or_eq_none_iff] at h ⊢
  obtain ⟨hf, hi, hn, hs⟩ := h
  refine ⟨?_, ?_, ?_, string?_append_eq_none hne (fun q hq hquote hmem => ?_) hs⟩
  · rw [Number.stops_float? previous t z, hf]
    rfl
  · rw [Number.stops_integer? t z, hi]
    rfl
  · rw [stops_name? t z, hn]
    rfl
  · rcases List.mem_cons.1 hmem with rfl | hmem
    · cases hquote
    · exact hz q hq hquote hmem

/-! ### What a literal stands for -/

/-- What a lexeme may stand for: neither the end of a tag nor a stop of the grammar. -/
structure Lexical (k : Token.Kind) : Prop where
  ne_blockEnd : k ≠ .blockEnd
  ne_stalled : k ≠ .fault .stalled

namespace Number

theorem lexical_float (whole frac : List Char) (negative : Bool) (exponent : List Char) :
    Lexical (float whole frac negative exponent) := by
  have hforeign : foreignDigits whole ≠ .stalled := by
    unfold foreignDigits
    split
    · split
      · simp
      · split
        · simp
        · split <;> simp
    · simp
  unfold float
  split
  · exact ⟨by simp, by simp⟩
  · exact ⟨by simp, by simpa using hforeign⟩

theorem lexical_decimal (ds : List Char) : Lexical (decimal ds) := by
  unfold decimal
  split <;> exact ⟨by simp, by simp⟩

theorem lexical_of_float? {previous : Char} {t r : Text} {k : Token.Kind}
    (h : float? previous t = some (k, r)) : Lexical k := by
  unfold float? at h
  split at h
  · cases h
  · obtain ⟨⟨whole, afterWhole⟩, -, h⟩ := Option.bind_eq_some_iff.1 h
    dsimp only at h
    split at h
    · split at h <;> cases h <;> exact lexical_float _ _ _ _
    · obtain ⟨e, -, h⟩ := Option.bind_eq_some_iff.1 h
      cases h
      exact lexical_float _ _ _ _

theorem lexical_of_decimal? {t r : Text} {k : Token.Kind} (h : decimal? t = some (k, r)) :
    Lexical k := by
  cases t with
  | nil => cases h
  | cons c cs =>
      simp only [decimal?] at h
      split at h
      · cases h
        exact lexical_decimal _
      · split at h
        · cases h
          exact lexical_decimal _
        · cases h

theorem lexical_of_integer? {t r : Text} {k : Token.Kind} (h : integer? t = some (k, r)) :
    Lexical k := by
  unfold integer? at h
  split at h
  · split at h
    · split at h
      · exact lexical_of_decimal? h
      · cases h
        exact ⟨by simp, by simp⟩
    · exact lexical_of_decimal? h
  · exact lexical_of_decimal? h

end Number

theorem lexical_of_literal? {previous : Char} {t r : Text} {k : Token.Kind}
    (h : literal? previous t = some (k, r)) : Lexical k := by
  rcases Option.or_eq_some_iff.1 h with h | ⟨-, h⟩
  · exact Number.lexical_of_float? h
  · rcases Option.or_eq_some_iff.1 h with h | ⟨-, h⟩
    · exact Number.lexical_of_integer? h
    · rcases Option.or_eq_some_iff.1 h with h | ⟨-, h⟩
      · unfold Cursor.name? at h
        split at h
        · cases h
        · dsimp only at h
          split at h <;> cases h <;> exact ⟨by simp, by simp⟩
      · cases t with
        | nil => cases h
        | cons c cs =>
            simp only [Cursor.string?] at h
            split at h
            · obtain ⟨⟨s, r'⟩, -, heq⟩ := Option.map_eq_some_iff.1 h
              dsimp only at heq
              split at heq <;> cases heq <;> exact ⟨by simp, by simp⟩
            · cases h

/-! ### What a lexeme is -/

/-- The lexeme at the start of a text: its token, the brackets that are open after it, and what
follows it.  The character before the text matters only if it is a point. -/
def lexemeAt (afterPoint : Bool) (brackets : List Char) (t : Text) :
    Token.Kind × List Char × Text :=
  (Cursor.mk 1 0 (if afterPoint then '.' else ' ') t).lexeme brackets

theorem lexeme_eq (c : Cursor) (brackets : List Char) : c.lexeme brackets =
    match literal? c.previous c.rest with
    | some r => (r.1, brackets, r.2)
    | none => match Operator.read? c.rest with
      | some r => ((Cursor.bracketed r.1 brackets).1, (Cursor.bracketed r.1 brackets).2, r.2)
      | none => (.fault (.strayCharacter (c.rest.headD ' ') c.offset), brackets, []) := by
  unfold Cursor.lexeme literal?
  cases Number.float? c.previous c.rest with
  | some r => rfl
  | none =>
      cases Number.integer? c.rest with
      | some r => rfl
      | none =>
          cases Cursor.name? c.rest with
          | some r => rfl
          | none =>
              cases Cursor.string? c.rest with
              | some r => rfl
              | none => cases Operator.read? c.rest <;> rfl

theorem literal?_previous (previous : Char) (t : Text) :
    literal? (if previous = '.' then '.' else ' ') t = literal? previous t := by
  unfold literal? Number.float?
  by_cases h : previous = '.'
  · simp [h]
  · simp [h]

/-- Where lexemes differ with the place, they are faults. -/
theorem lexeme_eq_lexemeAt (c : Cursor) (brackets : List Char) :
    c.lexeme brackets = lexemeAt (c.previous = '.') brackets c.rest ∨
      Cursor.isFault (c.lexeme brackets).1 = true ∧
        Cursor.isFault (lexemeAt (c.previous = '.') brackets c.rest).1 = true := by
  unfold lexemeAt
  rw [lexeme_eq, lexeme_eq]
  simp only [decide_eq_true_eq, literal?_previous]
  cases literal? c.previous c.rest with
  | some r => exact .inl rfl
  | none =>
      cases Operator.read? c.rest with
      | some r => exact .inl rfl
      | none => exact .inr ⟨rfl, rfl⟩

theorem lexical_bracketed (o : Operator) (brackets : List Char) :
    Lexical (Cursor.bracketed o brackets).1 := by
  unfold Cursor.bracketed
  split
  · exact ⟨by simp, by simp⟩
  · split
    · exact ⟨by simp, by simp⟩
    · split
      · exact ⟨by simp, by simp⟩
      · split <;> exact ⟨by simp, by simp⟩

theorem lexical_lexeme (c : Cursor) (brackets : List Char) : Lexical (c.lexeme brackets).1 := by
  rw [lexeme_eq]
  split
  · next hr => exact lexical_of_literal? hr
  · split
    · exact lexical_bracketed _ _
    · exact ⟨by simp, by simp⟩

section Append

variable {afterPoint : Bool} {brackets open_ : List Char} {t r z : Text} {k : Token.Kind}

theorem lexical_of_lexemeAt (h : lexemeAt afterPoint brackets t = (k, open_, r)) : Lexical k := by
  have hk := lexical_lexeme (Cursor.mk 1 0 (if afterPoint then '.' else ' ') t) brackets
  rw [lexemeAt] at h
  rwa [h] at hk

/-- A lexeme that is no fault takes something. -/
theorem takes_lexemeAt (h : lexemeAt afterPoint brackets t = (k, open_, r))
    (hk : Cursor.isFault k = false) : ∃ u, u ≠ [] ∧ t = u ++ r := by
  unfold lexemeAt at h
  rw [lexeme_eq] at h
  split at h
  · next w hw =>
      cases h
      exact takes_literal? _ t w.1 w.2 hw
  · split at h
    · next w hw =>
        cases h
        obtain ⟨c, cs, hsymbol, -⟩ := exists_symbol_eq_cons w.1
        refine ⟨w.1.symbol, ?_, eq_of_read? hw⟩
        rw [hsymbol]
        exact List.cons_ne_nil c cs
    · cases h
      cases hk

/-- A lexeme that is no fault is the same with a blank and anything else behind the text. -/
theorem lexemeAt_append (h : lexemeAt afterPoint brackets t = (k, open_, r))
    (hk : Cursor.isFault k = false) (z : Text) :
    lexemeAt afterPoint brackets (t ++ ' ' :: z) = (k, open_, r ++ ' ' :: z) := by
  unfold lexemeAt at h ⊢
  rw [lexeme_eq] at h ⊢
  dsimp only at h ⊢
  cases hl : literal? (if afterPoint = true then '.' else ' ') t with
  | some w =>
      rw [hl] at h
      rw [literal?_append hl z]
      cases h
      rfl
  | none =>
      rw [hl] at h
      cases ho : Operator.read? t with
      | none =>
          rw [ho] at h
          cases h
          cases hk
      | some w =>
          -- An operator does not begin with a quote, so no string literal begins here.
          obtain ⟨c, cs, hsymbol, hquote⟩ := exists_symbol_eq_cons w.1
          have ht := eq_of_read? ho
          rw [hsymbol] at ht
          have hnone :
              literal? (if afterPoint = true then '.' else ' ') (t ++ ' ' :: z) = none := by
            refine literal?_append_eq_none (by simp [ht]) (fun q hq hq' => ?_) hl
            rw [ht] at hq
            cases hq
            rw [hquote] at hq'
            cases hq'
          rw [ho] at h
          rw [hnone, stops_read? t z, ho]
          cases h
          rfl

/-- A lexeme that is a fault stays one, unless a string literal is closed behind the blank. -/
theorem isFault_lexemeAt_append (hne : t ≠ [])
    (hz : ∀ q ∈ t.head?, FilterArguments.isQuote q = true → q ∉ z)
    (h : Cursor.isFault (lexemeAt afterPoint brackets t).1 = true) :
    Cursor.isFault (lexemeAt afterPoint brackets (t ++ ' ' :: z)).1 = true := by
  unfold lexemeAt at h ⊢
  rw [lexeme_eq] at h ⊢
  dsimp only at h ⊢
  cases hl : literal? (if afterPoint = true then '.' else ' ') t with
  | some w =>
      rw [hl] at h
      rw [literal?_append hl z]
      exact h
  | none =>
      rw [hl] at h
      rw [literal?_append_eq_none hne hz hl, stops_read? t z]
      cases ho : Operator.read? t with
      | some w =>
          rw [ho] at h
          exact h
      | none => rfl

end Append

end Template
end LiquidMarkdown
