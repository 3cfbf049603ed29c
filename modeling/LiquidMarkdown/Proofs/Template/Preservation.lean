import LiquidMarkdown.Proofs.Template.Quotes
import Mathlib.Logic.Function.Iterate

/-!
# Rewriting filters loses nothing

Filters are cut into arguments, and these are trimmed, set anew and put together again.  What a
filter says is in the characters that are neither blanks nor set by the rewriting; these stay as
they are and in their order, in closed and in open quotes.  This file defines:

* `isSetting`, `substance` — the characters that only set others apart, and the text without them;
* `Pass` — the rewriting as a loop: what was written, the open quote, and what is still to be read.

Each round of the loop shortens what is to be read and changes nothing about the result
(`Pass.result_next`); the loop ends with a text of the same substance, and with the same literals
where quotes are closed (`toCalls_conserves`).
-/

namespace LiquidMarkdown
namespace Template
namespace FilterArguments

/-! ## Substance -/

/-- Does the character only set others apart?  These are the blanks, and the characters that the
rewriting of filters writes or leaves out. -/
def isSetting (c : Char) : Bool :=
  Text.isBlank c || [',', ':', '=', '(', ')'].contains c

/-- The text without the characters that only set others apart. -/
def substance (t : Text) : Text :=
  t.filter fun c => !isSetting c

section Substance

variable {s t : Text}

@[simp] theorem substance_append (s t : Text) : substance (s ++ t) = substance s ++ substance t :=
  List.filter_append s t

theorem substance_cons (c : Char) (t : Text) :
    substance (c :: t) = substance [c] ++ substance t :=
  substance_append [c] t

theorem substance_eq_nil (h : ∀ c ∈ t, isSetting c = true) : substance t = [] :=
  List.filter_eq_nil_iff.2 fun c hc => by simp [h c hc]

theorem substance_blank (h : ∀ c ∈ t, Text.isBlank c = true) : substance t = [] :=
  substance_eq_nil fun c hc => by simp [isSetting, h c hc]

theorem substance_trim (t : Text) : substance (Text.trim t) = substance t := by
  obtain ⟨a, b, ht, ha, hb⟩ := exists_trim t
  conv => rhs; rw [ht]
  simp [substance_blank ha, substance_blank hb]

end Substance

/-! ## Arguments -/

section Arguments

variable {outside : Char → Prop} {t : Text}

/-- Empty texts can be left out, if they give nothing. -/
theorem flatMap_filter_ne_nil {α : Type} {f : Text → List α} (hf : f [] = []) (ts : List Text) :
    (ts.filter (· ≠ [])).flatMap f = ts.flatMap f := by
  induction ts with
  | nil => rfl
  | cons t ts ih =>
      by_cases ht : t = []
      · simpa [ht, hf] using ih
      · simpa [ht] using ih

theorem substance_fields (t : Text) : (fields t).flatMap substance = substance t := by
  fun_induction fields t with
  | case1 t r hr =>
      have ht : r.1 ++ r.2 = t := breakAtTop_append ..
      rw [hr, List.append_nil] at ht
      rw [List.flatMap_singleton, ht]
  | case2 t r c rest hr ih =>
      have ht : r.1 ++ r.2 = t := breakAtTop_append ..
      have hc : c = ',' := eq_of_breakAtTop hr
      rw [hr, hc] at ht
      rw [List.flatMap_cons, ih, ← ht, substance_append, substance_cons ',',
        substance_eq_nil (t := [',']) (List.forall_mem_singleton.2 rfl), List.nil_append]

theorem substance_split (t : Text) : (split t).flatMap substance = substance t := by
  rw [split, flatMap_filter_ne_nil rfl, List.flatMap_map]
  simp only [substance_trim]
  exact substance_fields t

/-- The fields of a closed text are closed. -/
theorem closed_of_mem_fields (ht : Closed outside t) : ∀ f ∈ fields t, Closed outside f := by
  fun_induction fields t with
  | case1 t r hr => exact List.forall_mem_singleton.2 (closed_breakAtTop ',' _ rfl rfl ht).1
  | case2 t r c rest hr ih =>
      obtain ⟨hfirst, hbehind⟩ := closed_breakAtTop ',' Nesting.top rfl rfl ht
      have hcomma : Closed outside (c :: rest) := hr ▸ hbehind
      rw [eq_of_breakAtTop hr, closed_cons_iff rfl] at hcomma
      exact List.forall_mem_cons.2 ⟨hfirst, ih hcomma.2⟩

theorem literals_fields (ht : Closed outside t) : (fields t).flatMap literals = literals t := by
  fun_induction fields t with
  | case1 t r hr =>
      have heq : r.1 ++ r.2 = t := breakAtTop_append ..
      rw [hr, List.append_nil] at heq
      rw [List.flatMap_singleton, heq]
  | case2 t r c rest hr ih =>
      obtain ⟨hfirst, hbehind⟩ := closed_breakAtTop ',' Nesting.top rfl rfl ht
      have heq : r.1 ++ r.2 = t := breakAtTop_append ..
      have hcomma : Closed outside (c :: rest) := hr ▸ hbehind
      have hc : c = ',' := eq_of_breakAtTop hr
      rw [hc, closed_cons_iff rfl] at hcomma
      rw [hr, hc] at heq
      rw [List.flatMap_cons, ih hcomma.2, ← heq, literals_append hfirst,
        literals_cons (c := ',') rfl]

/-- A closed text stays closed between blanks, with the same literals. -/
theorem closed_trim (ht : Closed outside t) :
    Closed outside (Text.trim t) ∧ literals (Text.trim t) = literals t := by
  obtain ⟨a, b, heq, ha, hb⟩ := exists_trim t
  have ha' : ∀ c ∈ a, isQuote c = false := fun c hc => isQuote_of_isBlank (ha c hc)
  have hb' : ∀ c ∈ b, isQuote c = false := fun c hc => isQuote_of_isBlank (hb c hc)
  rw [heq] at ht
  have hbefore := ht.of_append_left hb'
  have htrim := hbefore.of_append_right ha'
  refine ⟨htrim, ?_⟩
  conv => rhs; rw [heq]
  rw [List.append_assoc, literals_append_of_forall ha', literals_append htrim, literals_eq_nil hb',
    List.append_nil]

/-- An argument stays as it is, or the colon behind its key gives way to an equals sign. -/
theorem asArgument_cases (a : Text) : asArgument a = a ∨
    ∃ key b b' value, a = key ++ b ++ ':' :: (b' ++ value) ∧ asArgument a = key ++ '=' :: value ∧
      (∀ c ∈ key, Unicode.isWord c = true) ∧ (∀ c ∈ b, Text.isBlank c = true) ∧
      ∀ c ∈ b', Text.isBlank c = true := by
  have hkey := List.takeWhile_append_dropWhile (p := Unicode.isWord) (l := a)
  unfold asArgument
  dsimp only
  split
  · next value hvalue =>
      split
      · exact .inl rfl
      · refine .inr ⟨a.takeWhile Unicode.isWord,
          (a.dropWhile Unicode.isWord).takeWhile Text.isBlank,
          value.takeWhile Text.isBlank, Text.trimStart value, ?_, rfl, ?_, ?_, ?_⟩
        · rw [Text.takeWhile_append_dropStart, ← hvalue, List.append_assoc,
            Text.takeWhile_append_dropStart, hkey]
        · exact List.all_eq_true.1 List.all_takeWhile
        · exact List.all_eq_true.1 List.all_takeWhile
        · exact List.all_eq_true.1 List.all_takeWhile
  · exact .inl rfl

theorem substance_asArgument (a : Text) : substance (asArgument a) = substance a := by
  rcases asArgument_cases a with h | ⟨key, b, b', value, ha, h, -, hb, hb'⟩
  · rw [h]
  · have hcolon : substance [':'] = [] := substance_eq_nil (List.forall_mem_singleton.2 rfl)
    have hequals : substance ['='] = [] := substance_eq_nil (List.forall_mem_singleton.2 rfl)
    rw [h, ha, substance_append, substance_cons '=', substance_append, substance_append,
      substance_cons ':', substance_append, hcolon, hequals, substance_blank hb,
      substance_blank hb',
      List.append_nil, List.nil_append, List.nil_append]

theorem quotesClosed_asArgument {a : Text} (ha : QuotesClosed a) :
    QuotesClosed (asArgument a) ∧ literals (asArgument a) = literals a := by
  rcases asArgument_cases a with h | ⟨key, b, b', value, heq, h, hkey, hb, hb'⟩
  · rw [h]
    exact ⟨ha, rfl⟩
  · have hkey' : ∀ c ∈ key, isQuote c = false := fun c hc => isQuote_of_isWord (hkey c hc)
    have hlead : ∀ c ∈ key ++ b ++ ':' :: b', isQuote c = false := by
      simp only [List.mem_append, List.mem_cons]
      rintro c ((hc | hc) | rfl | hc)
      · exact hkey' c hc
      · exact isQuote_of_isBlank (hb c hc)
      · rfl
      · exact isQuote_of_isBlank (hb' c hc)
    have heq' : a = key ++ b ++ ':' :: b' ++ value := by rw [heq]; simp
    rw [heq'] at ha
    have hvalue : QuotesClosed value := ha.of_append_right hlead
    rw [h, heq', literals_append_of_forall hkey', literals_cons rfl,
      literals_append_of_forall hlead]
    exact ⟨(closed_append_iff (quotesClosed_of_forall hkey')).2 (.char rfl trivial hvalue), rfl⟩

end Arguments

/-! ## Calls -/

section Calls

variable {name args : Text} {as : List Text}

theorem isBlank_of_mem_takeEnd {c : Char} {t : Text} (hc : c ∈ Text.takeEnd Text.isBlank t) :
    Text.isBlank c = true :=
  List.all_eq_true.1 List.all_takeWhile c (List.mem_reverse.1 hc)

theorem substance_joinWith (as : List Text) :
    substance (Text.joinWith ", " as) = as.flatMap substance := by
  have hcomma : substance ", " = [] := substance_eq_nil (List.all_eq_true.1 rfl)
  induction as with
  | nil => rfl
  | cons a as ih =>
      cases as with
      | nil => simp [Text.joinWith]
      | cons b as =>
          rw [Text.joinWith] at ih ⊢
          rw [List.intercalate_cons_cons, substance_append, substance_append, hcomma,
            List.append_nil, ih, List.flatMap_cons (x := a)]

/-- A call has the substance of the filter that it is made of. -/
theorem substance_call (name args : Text) :
    substance (call name args) = substance ('|' :: (name ++ args)) := by
  have hspace : substance [' '] = [] := substance_eq_nil (List.forall_mem_singleton.2 rfl)
  have hopen : substance ['('] = [] := substance_eq_nil (List.forall_mem_singleton.2 rfl)
  have hclose : substance [')'] = [] := substance_eq_nil (List.forall_mem_singleton.2 rfl)
  have harguments :
      substance (Text.joinWith ", " ((split args).map asArgument)) = substance args := by
    rw [substance_joinWith, List.flatMap_map]
    simp only [substance_asArgument]
    exact substance_split args
  rw [call, substance_append, substance_append, substance_append, substance_cons '|' [' '],
    substance_cons '(', substance_cons ')', hspace, hopen, hclose, harguments,
    substance_blank fun c hc => isBlank_of_mem_takeEnd hc, substance_cons '|' (name ++ args),
    substance_append name]
  simp

theorem quotesClosed_joinWith (h : ∀ a ∈ as, QuotesClosed a) :
    QuotesClosed (Text.joinWith ", " as) ∧
      literals (Text.joinWith ", " as) = as.flatMap literals := by
  have hcomma : ∀ c ∈ (", " : Text), isQuote c = false := by simp [isQuote]
  induction as with
  | nil => exact ⟨.nil, literals_eq_nil (t := []) (by simp)⟩
  | cons a as ih =>
      have ha := h a List.mem_cons_self
      cases as with
      | nil =>
          rw [Text.joinWith, List.intercalate_singleton, List.flatMap_singleton]
          exact ⟨ha, rfl⟩
      | cons b as =>
          obtain ⟨hrest, hliterals⟩ := ih fun x hx => h x (List.mem_cons_of_mem a hx)
          rw [Text.joinWith] at hrest hliterals ⊢
          rw [List.intercalate_cons_cons, List.append_assoc, literals_append ha,
            literals_append_of_forall hcomma, hliterals, List.flatMap_cons]
          refine ⟨(closed_append_iff ha).2 ?_, rfl⟩
          exact (closed_append_iff (quotesClosed_of_forall hcomma)).2 hrest

/-- The arguments in a closed text are closed, and have its literals. -/
theorem quotesClosed_split (ht : QuotesClosed args) :
    (∀ a ∈ split args, QuotesClosed a) ∧ (split args).flatMap literals = literals args := by
  have hfields := closed_of_mem_fields ht
  constructor
  · intro a ha
    obtain ⟨f, hf, rfl⟩ := List.mem_map.1 (List.mem_of_mem_filter ha)
    exact (closed_trim (hfields f hf)).1
  · have htrim : ∀ f ∈ fields args, literals (Text.trim f) = literals f :=
      fun f hf => (closed_trim (hfields f hf)).2
    rw [split, flatMap_filter_ne_nil (literals_eq_nil (by simp)), List.flatMap_map,
      List.flatMap_congr htrim, literals_fields ht]

/-- A call has the literals of its arguments. -/
theorem quotesClosed_call (hname : ∀ c ∈ name, Unicode.isWord c = true)
    (hargs : QuotesClosed args) :
    QuotesClosed (call name args) ∧ literals (call name args) = literals args := by
  obtain ⟨hsplit, hliterals⟩ := quotesClosed_split hargs
  have harguments : ∀ a ∈ (split args).map asArgument, QuotesClosed a := by
    intro a ha
    obtain ⟨b, hb, rfl⟩ := List.mem_map.1 ha
    exact (quotesClosed_asArgument (hsplit b hb)).1
  obtain ⟨hjoined, hjoinedLiterals⟩ := quotesClosed_joinWith harguments
  rw [List.flatMap_map, List.flatMap_congr fun a ha => (quotesClosed_asArgument (hsplit a ha)).2,
    hliterals] at hjoinedLiterals
  -- Around the arguments there are no quotes.
  have hlead : ∀ c ∈ ['|', ' '] ++ name ++ ['('], isQuote c = false := by
    simp only [List.mem_append, List.mem_cons, List.not_mem_nil, or_false]
    rintro c (((rfl | rfl) | hc) | rfl)
    · rfl
    · rfl
    · exact isQuote_of_isWord (hname c hc)
    · rfl
  have hend : ∀ c ∈ ')' :: Text.takeEnd Text.isBlank args, isQuote c = false := by
    simp only [List.mem_cons]
    rintro c (rfl | hc)
    · rfl
    · exact isQuote_of_isBlank (isBlank_of_mem_takeEnd hc)
  have hcall : call name args = ['|', ' '] ++ name ++ ['('] ++
      (Text.joinWith ", " ((split args).map asArgument) ++
        ')' :: Text.takeEnd Text.isBlank args) := by
    simp [call]
  rw [hcall, literals_append_of_forall hlead, literals_append hjoined, literals_eq_nil hend,
    List.append_nil]
  refine ⟨(closed_append_iff (quotesClosed_of_forall hlead)).2 ?_, hjoinedLiterals⟩
  exact (closed_append_iff hjoined).2 (quotesClosed_of_forall hend)

end Calls

/-! ## Texts -/

section Texts

variable {t : Text}

theorem substance_cons_congr {s : Text} (c : Char) (h : substance s = substance t) :
    substance (c :: s) = substance (c :: t) := by
  rw [substance_cons, h, ← substance_cons]

theorem substance_rewrite (quote : Option Char) (t : Text) :
    substance (rewrite quote t) = substance t := by
  fun_induction rewrite quote t with
  | case1 => rfl
  | case2 c cs q ih => exact substance_cons_congr c ih
  | case3 c cs _ ih => exact substance_cons_congr c ih
  | case4 cs name rest hhead r _ ih =>
      obtain ⟨a, b, rfl, ha, hb, -⟩ := exists_of_head? hhead
      have hrest : r.1 ++ r.2 = rest := breakAtTop_append ..
      have hcolon : substance (':' :: rest) = substance rest := by
        rw [substance_cons, substance_eq_nil (t := [':']) (List.forall_mem_singleton.2 rfl),
          List.nil_append]
      have hhead : substance (a ++ name ++ b ++ ':' :: rest) = substance (name ++ rest) := by
        simp only [substance_append, substance_blank ha, substance_blank hb, hcolon,
          List.nil_append,
          List.append_nil]
      calc substance (call name r.1 ++ rewrite none r.2)
          = substance ('|' :: (name ++ r.1)) ++ substance r.2 := by
            rw [substance_append, ih, substance_call]
        _ = substance ('|' :: (name ++ rest)) := by
            rw [← substance_append, ← hrest, List.cons_append, List.append_assoc]
        _ = substance ('|' :: (a ++ name ++ b ++ ':' :: rest)) := by
            rw [substance_cons, ← hhead, ← substance_cons]
  | case5 cs _ _ ih => exact substance_cons_congr '|' ih
  | case6 c cs _ _ ih => exact substance_cons_congr c ih

/-- The text behind the head of a filter is closed, if the filter is, and has all its literals. -/
theorem quotesClosed_of_head? {name rest : Text} (h : head? t = some (name, rest))
    (ht : QuotesClosed t) : QuotesClosed rest ∧ literals rest = literals t := by
  obtain ⟨a, b, rfl, ha, hb, hname⟩ := exists_of_head? h
  have hlead : ∀ c ∈ a ++ name ++ b ++ [':'], isQuote c = false := by
    simp only [List.mem_append, List.mem_singleton]
    rintro c (((hc | hc) | hc) | rfl)
    · exact isQuote_of_isBlank (ha c hc)
    · exact isQuote_of_isWord (hname c hc)
    · exact isQuote_of_isBlank (hb c hc)
    · rfl
  have heq : a ++ name ++ b ++ ':' :: rest = a ++ name ++ b ++ [':'] ++ rest := by simp
  rw [heq] at ht ⊢
  exact ⟨ht.of_append_right hlead, (literals_append_of_forall hlead rest).symm⟩

/-- The rewriting keeps the literals of a closed text. -/
theorem literals_rewrite (ht : QuotesClosed t) : literals (rewrite none t) = literals t := by
  -- A call takes more than the constructors do, so the induction is on the length.
  generalize hlen : t.length = n
  induction n using Nat.strongRecOn generalizing t with
  | ind n ih =>
      cases ht with
      | nil => rw [rewrite]
      | @char c t hc _ ht =>
          have hrest := ih t.length (by simp [← hlen]) ht rfl
          by_cases hbar : c = '|'
          · subst hbar
            cases hhead : head? t with
            | none => rw [rewrite_bar_of_none hhead, literals_cons hc, literals_cons hc, hrest]
            | some r =>
                obtain ⟨name, rest⟩ := r
                obtain ⟨a, b, -, -, -, hname⟩ := exists_of_head? hhead
                obtain ⟨hbehind, hliterals⟩ := quotesClosed_of_head? hhead ht
                obtain ⟨hargs, hmore⟩ := closed_breakAtTop '|' Nesting.top rfl rfl hbehind
                obtain ⟨hcall, hcallLiterals⟩ := quotesClosed_call hname hargs
                have hshorter := length_lt_of_head? hhead
                have hcut := length_breakAtTop_le '|' Nesting.top rest
                rw [List.length_cons] at hlen
                calc literals (rewrite none ('|' :: t))
                    = literals (call name (breakAtTop '|' Nesting.top rest).1 ++
                        rewrite none (breakAtTop '|' Nesting.top rest).2) := by
                      rw [rewrite_bar_of_some hhead]
                  _ = literals (breakAtTop '|' Nesting.top rest).1 ++
                        literals (rewrite none (breakAtTop '|' Nesting.top rest).2) := by
                      rw [literals_append hcall, hcallLiterals]
                  _ = literals (breakAtTop '|' Nesting.top rest).1 ++
                        literals (breakAtTop '|' Nesting.top rest).2 := by
                      rw [ih _ (by omega) hmore rfl]
                  _ = literals rest := by
                      rw [← literals_append hargs, breakAtTop_append]
                  _ = literals ('|' :: t) := by
                      rw [hliterals, literals_cons hc]
          · rw [rewrite, if_neg (Bool.not_eq_true _ ▸ hc), if_neg hbar, literals_cons hc,
              literals_cons hc, hrest]
      | @literal q u t hq hu ht =>
          have hlt : t.length < n := by
            rw [← hlen]
            simp only [List.length_cons, List.length_append]
            omega
          rw [rewrite, if_pos hq, rewrite_quoted hu, literals_literal hq hu, literals_literal hq hu,
            ih t.length hlt ht rfl]

end Texts

/-! ## The loop -/

/-- A pass through a text: what was written, the quote that is open, and what is still to be read.
-/
structure Pass where
  written : Text
  quote : Option Char
  rest : Text

namespace Pass

/-- The pass at the start of a text. -/
def ofText (t : Text) : Pass :=
  ⟨[], none, t⟩

/-- One round of the pass: a character is copied, or a filter with its arguments is rewritten. -/
def next (p : Pass) : Pass :=
  match p.rest with
  | [] => p
  | c :: cs =>
      match p.quote with
      | some q => ⟨p.written ++ [c], if c = q then none else some q, cs⟩
      | none =>
          if isQuote c then ⟨p.written ++ [c], some c, cs⟩
          else match if c = '|' then head? cs else none with
            | some (name, rest) =>
                let r := breakAtTop '|' Nesting.top rest
                ⟨p.written ++ call name r.1, none, r.2⟩
            | none => ⟨p.written ++ [c], none, cs⟩

/-- What will have been written at the end. -/
def result (p : Pass) : Text :=
  p.written ++ rewrite p.quote p.rest

theorem result_ofText (t : Text) : (ofText t).result = toCalls t :=
  rfl

/-- A round changes nothing about what will have been written. -/
theorem result_next (p : Pass) : p.next.result = p.result := by
  obtain ⟨written, quote, rest⟩ := p
  cases rest with
  | nil => rfl
  | cons c cs =>
      cases quote with
      | some q => simp [next, result, rewrite]
      | none =>
          by_cases hquote : isQuote c = true
          · simp [next, result, rewrite, hquote]
          · by_cases hbar : c = '|'
            · subst hbar
              cases hhead : head? cs with
              | none => simp [next, result, hquote, hhead, rewrite_bar_of_none hhead]
              | some r => simp [next, result, hquote, hhead, rewrite_bar_of_some hhead]
            · simp [next, result, rewrite, hquote, hbar]

/-- A round shortens what is still to be read. -/
theorem length_rest_next_lt (p : Pass) (h : p.rest ≠ []) : p.next.rest.length < p.rest.length := by
  obtain ⟨written, quote, rest⟩ := p
  cases rest with
  | nil => exact absurd rfl h
  | cons c cs =>
      have hcopied : cs.length < (c :: cs).length := Nat.lt_succ_self _
      unfold next
      dsimp only
      split
      · exact hcopied
      · split
        · exact hcopied
        · split
          · next name rest hhead =>
              split at hhead
              · have hshorter := length_lt_of_head? hhead
                have hcut := length_breakAtTop_le '|' Nesting.top rest
                dsimp only
                omega
              · cases hhead
          · exact hcopied

/-- The rounds come to an end, after as many as there are characters at most, and have then written
what the rewriting gives. -/
theorem exists_iterate_next (p : Pass) :
    ∃ n ≤ p.rest.length, ∃ quote, next^[n] p = ⟨p.result, quote, []⟩ := by
  generalize hlen : p.rest.length = k
  induction k using Nat.strongRecOn generalizing p with
  | ind k ih =>
      by_cases hrest : p.rest = []
      · refine ⟨0, Nat.zero_le k, p.quote, ?_⟩
        obtain ⟨written, quote, rest⟩ := p
        subst hrest
        simp [result, rewrite]
      · have hlt := length_rest_next_lt p hrest
        obtain ⟨n, hn, quote, heq⟩ := ih p.next.rest.length (hlen ▸ hlt) p.next rfl
        refine ⟨n + 1, by omega, quote, ?_⟩
        rw [Function.iterate_succ_apply, heq, result_next]

end Pass

/-- Whatever a text is like, the pass through it comes to an end, with a text that differs from it
in blanks and in the characters that set arguments apart and nowhere else.  Where every quote of the
text is closed, the quoted literals stay as they are. -/
theorem toCalls_conserves (t : Text) :
    (∃ n ≤ t.length, ∃ quote, Pass.next^[n] (.ofText t) = ⟨toCalls t, quote, []⟩) ∧
      substance (toCalls t) = substance t ∧
        (QuotesClosed t → literals (toCalls t) = literals t) := by
  refine ⟨?_, substance_rewrite none t, literals_rewrite⟩
  rw [← Pass.result_ofText t]
  exact Pass.exists_iterate_next (.ofText t)

/-- Commas, bars and blanks in quotes are kept, those around arguments are set anew. -/
theorem toCalls_conserves_quotedComma :
    QuotesClosed "x | f : 'a , b' ,, k :\"| c:\" | g" ∧
      literals (toCalls "x | f : 'a , b' ,, k :\"| c:\" | g") = ["'a , b'", "\"| c:\""] := by
  have hclosed : QuotesClosed "x | f : 'a , b' ,, k :\"| c:\" | g" := by
    decide
  have hliterals : literals "x | f : 'a , b' ,, k :\"| c:\" | g" = ["'a , b'", "\"| c:\""] := by
    cbv
  exact ⟨hclosed, ((toCalls_conserves _).2.2 hclosed).trans hliterals⟩

end FilterArguments
end Template
end LiquidMarkdown
