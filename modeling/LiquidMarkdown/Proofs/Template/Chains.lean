import LiquidMarkdown.Proofs.Template.Quotes

/-!
# Chains of filters

A chain is a text with filters behind it, each with a name and any number of arguments.  This file
defines:

* `Bracketed` — a text in which quotes and brackets are closed, in their order;
* `Argument`, `Filter` — what a chain is made of, as it is written and as it is called;
* `Argument.Proper`, `Filter.Proper` — that the parts can be told apart.

A scan passes a bracketed text (`Bracketed.passed`), so that the arguments of a filter are found
where they were written (`split_joinWith`), and every filter of a chain is called with its own
arguments (`toCalls_chain`).
-/

namespace LiquidMarkdown

/-- The trailing members of a class stand behind the last character outside of it. -/
theorem Text.takeEnd_append {p : Char → Bool} {c : Char} {b : Text} (hc : p c = false)
    (hb : ∀ x ∈ b, p x = true) (u : Text) : takeEnd p (u ++ c :: b) = b := by
  have hreverse : (u ++ c :: b).reverse = b.reverse ++ c :: u.reverse := by simp
  rw [takeEnd, hreverse, List.takeWhile_append_of_pos fun x hx => hb x (List.mem_reverse.1 hx)]
  simp [hc]

namespace Template
namespace FilterArguments

/-! ## Brackets -/

/-- Does the character open or close a bracket? -/
def isBracket (c : Char) : Bool :=
  ['(', ')', '[', ']'].contains c

/-- Quotes and brackets are closed in their order, and the characters outside of both are of a
class. -/
inductive Bracketed : (Char → Prop) → Text → Prop where
  | nil {outside : Char → Prop} : Bracketed outside []
  | char {outside : Char → Prop} {c : Char} {t : Text} (hquote : isQuote c = false)
      (hbracket : isBracket c = false) (hout : outside c) (h : Bracketed outside t) :
      Bracketed outside (c :: t)
  | literal {outside : Char → Prop} {q : Char} {u t : Text} (hq : isQuote q = true) (hu : q ∉ u)
      (h : Bracketed outside t) : Bracketed outside (q :: (u ++ q :: t))
  | round {outside : Char → Prop} {u t : Text} (hu : Bracketed (fun _ => True) u)
      (h : Bracketed outside t) : Bracketed outside ('(' :: (u ++ ')' :: t))
  | square {outside : Char → Prop} {u t : Text} (hu : Bracketed (fun _ => True) u)
      (h : Bracketed outside t) : Bracketed outside ('[' :: (u ++ ']' :: t))

section Bracketed

variable {outside : Char → Prop} {stop : Char} {s t : Text}

theorem Bracketed.append (hs : Bracketed outside s) (ht : Bracketed outside t) :
    Bracketed outside (s ++ t) := by
  induction hs with
  | nil => exact ht
  | char hquote hbracket hout _ ih => exact .char hquote hbracket hout (ih ht)
  | literal hq hu _ ih =>
      rw [List.cons_append, List.append_assoc]
      exact .literal hq hu (ih ht)
  | round hu _ _ ih =>
      rw [List.cons_append, List.append_assoc]
      exact .round hu (ih ht)
  | square hu _ _ ih =>
      rw [List.cons_append, List.append_assoc]
      exact .square hu (ih ht)

/-- The text is passed by a scan in a given state. -/
def Passed (stop : Char) (n : Nesting) (t : Text) : Prop :=
  ∀ z, breakAtTop stop n (t ++ z) = (t ++ (breakAtTop stop n z).1, (breakAtTop stop n z).2)

theorem breakAtTop_cons {c : Char} {n : Nesting}
    (h : (c = stop && n.quote.isNone && n.depth ≤ 0) = false) (t : Text) :
    breakAtTop stop n (c :: t) =
      (c :: (breakAtTop stop (n.push c) t).1, (breakAtTop stop (n.push c) t).2) := by
  rw [breakAtTop, h]
  rfl

/-- What stands in brackets is passed one level down. -/
theorem passed_group {o e : Char} {u : Text} {d : Int} (ho : o ≠ stop) (he : e ≠ stop)
    (hopen : Nesting.push ⟨none, d⟩ o = ⟨none, d + 1⟩)
    (hclose : Nesting.push ⟨none, d + 1⟩ e = ⟨none, d⟩) (hu : Passed stop ⟨none, d + 1⟩ u)
    (ht : Passed stop ⟨none, d⟩ t) : Passed stop ⟨none, d⟩ (o :: (u ++ e :: t)) := by
  intro z
  rw [List.cons_append, breakAtTop_cons (by simp [ho]), hopen, List.append_assoc, hu,
    List.cons_append,
    breakAtTop_cons (by simp [he]), hclose, ht]
  simp

/-- A bracketed text is passed by a scan, be it outside of brackets, for a character that the text
does not hold there, or inside of them. -/
theorem Bracketed.passed (hstop : isQuote stop = false ∧ isBracket stop = false)
    (ht : Bracketed outside t) {d : Int} (hd : 0 ≤ d) (hout : (∀ c, outside c → c ≠ stop) ∨ 0 < d) :
    Passed stop ⟨none, d⟩ t := by
  have hbracket {c : Char} (hc : isBracket c = true) : c ≠ stop := by
    rintro rfl
    exact Bool.false_ne_true (hstop.2.symm.trans hc)
  -- Inside of brackets the depth is positive, and a scan stops at depth zero only.
  induction ht generalizing d with
  | nil => exact fun z => rfl
  | @char outside c t hquote hbracket' hc _ ih =>
      intro z
      have hpush : Nesting.push ⟨none, d⟩ c = ⟨none, d⟩ := by
        simp only [isBracket, List.contains_cons, List.contains_nil, Bool.or_false,
          Bool.or_eq_false_iff, beq_eq_false_iff_ne, ne_eq] at hbracket'
        simp [Nesting.push, hquote, hbracket']
      have hpass : (c = stop && (none : Option Char).isNone && d ≤ 0) = false := by
        rcases hout with h | h
        · simp [h c hc]
        · simp
          omega
      rw [List.cons_append, breakAtTop_cons hpass, hpush, ih hd hout]
      rfl
  | literal hq hu _ ih =>
      intro z
      rw [List.cons_append, List.append_assoc, List.cons_append,
        breakAtTop_literal hstop.1 rfl hq hu,
        ih hd hout]
      simp
  | round _ _ ihu ih =>
      refine passed_group (hbracket rfl) (hbracket rfl) rfl ?_ (ihu (by omega) (.inr (by omega)))
        (ih hd hout)
      simp [Nesting.push, isQuote]
  | square _ _ ihu ih =>
      refine passed_group (hbracket rfl) (hbracket rfl) rfl ?_ (ihu (by omega) (.inr (by omega)))
        (ih hd hout)
      simp [Nesting.push, isQuote]

theorem Bracketed.of_forall (h : ∀ c ∈ t, isQuote c = false ∧ isBracket c = false ∧ outside c) :
    Bracketed outside t := by
  induction t with
  | nil => exact .nil
  | cons c t ih =>
      obtain ⟨hquote, hbracket, hout⟩ := h c List.mem_cons_self
      exact .char hquote hbracket hout (ih fun x hx => h x (List.mem_cons_of_mem c hx))

theorem Bracketed.mono {outside' : Char → Prop} (h : ∀ c, outside c → outside' c)
    (ht : Bracketed outside t) : Bracketed outside' t := by
  induction ht with
  | nil => exact .nil
  | char hquote hbracket hout _ ih => exact .char hquote hbracket (h _ hout) (ih h)
  | literal hq hu _ ih => exact .literal hq hu (ih h)
  | round hu _ _ ih => exact .round hu (ih h)
  | square hu _ _ ih => exact .square hu (ih h)

end Bracketed

/-! ## Arguments -/

/-- Does the character part arguments or filters? -/
def Parts (c : Char) : Prop :=
  c = ',' ∨ c = '|'

/-- A text that can stand as an argument: it is there, there are no blanks around it, and it holds
neither commas nor bars outside of quotes and brackets. -/
structure Whole (t : Text) : Prop where
  ne_nil : t ≠ []
  trim_eq : Text.trim t = t
  bracketed : Bracketed (fun c => ¬ Parts c) t

/-- The text begins with a word and a colon behind it. -/
def BeginsWithKey (t : Text) : Prop :=
  ∃ key b rest, t = key ++ b ++ ':' :: rest ∧ key ≠ [] ∧ (∀ c ∈ key, Unicode.isWord c = true) ∧
    ∀ c ∈ b, Text.isBlank c = true

/-- An argument of a filter. -/
inductive Argument where
  | positional (value : Text)
  | keyword (key value : Text)

namespace Argument

/-- The argument as it is written. -/
def written : Argument → Text
  | positional value => value
  | keyword key value => key ++ ':' :: ' ' :: value

/-- The argument in a call. -/
def called : Argument → Text
  | positional value => value
  | keyword key value => key ++ '=' :: value

/-- The argument is told from others, and a keyword argument from a positional one. -/
def Proper : Argument → Prop
  | positional value => Whole value ∧ ¬ BeginsWithKey value
  | keyword key value => Whole value ∧ (∀ c ∈ key, Unicode.isWord c = true) ∧
      ∃ c ∈ key, Unicode.isDigit c = false

end Argument

/-- A filter with its arguments. -/
structure Filter where
  name : Text
  args : List Argument

namespace Filter

/-- The filter as it is written, behind a bar. -/
def written (f : Filter) : Text :=
  (" | " : Text) ++ f.name ++
    if f.args = [] then [] else (": " : Text) ++ Text.joinWith ", " (f.args.map Argument.written)

/-- The filter as a call, behind a bar. -/
def called (f : Filter) : Text :=
  (" | " : Text) ++ f.name ++
    if f.args = [] then [] else ['('] ++ Text.joinWith ", " (f.args.map Argument.called) ++ [')']

/-- The filter has a name and proper arguments. -/
structure Proper (f : Filter) : Prop where
  ne_nil : f.name ≠ []
  isWord : ∀ c ∈ f.name, Unicode.isWord c = true
  proper : ∀ a ∈ f.args, a.Proper

end Filter

section Arguments

variable {key value t : Text} {as : List Text} {c : Char}

/-- A word character neither opens nor closes anything, and parts nothing. -/
theorem plain_of_isWord (h : Unicode.isWord c = true) :
    isQuote c = false ∧ isBracket c = false ∧ ¬ Parts c := by
  refine ⟨isQuote_of_isWord h, Bool.eq_false_iff.2 fun hbracket => ?_, ?_⟩
  · simp only [isBracket, List.contains_cons, List.contains_nil, Bool.or_false, Bool.or_eq_true,
      beq_iff_eq] at hbracket
    rcases hbracket with rfl | rfl | rfl | rfl <;> exact absurd h (by decide)
  · rintro (rfl | rfl) <;> exact absurd h (by decide)

theorem plain_of_isBlank (h : Text.isBlank c = true) :
    isQuote c = false ∧ isBracket c = false ∧ ¬ Parts c := by
  refine ⟨isQuote_of_isBlank h, Bool.eq_false_iff.2 fun hbracket => ?_, ?_⟩
  · simp only [isBracket, List.contains_cons, List.contains_nil, Bool.or_false, Bool.or_eq_true,
      beq_iff_eq] at hbracket
    rcases hbracket with rfl | rfl | rfl | rfl <;> cases h
  · rintro (rfl | rfl) <;> cases h

theorem not_beginsWithKey (h : ∀ c ∈ t.head?, Unicode.isWord c = false) : ¬ BeginsWithKey t := by
  rintro ⟨key, b, rest, rfl, hne, hkey, -⟩
  cases key with
  | nil => exact hne rfl
  | cons c key =>
      exact Bool.false_ne_true ((h c rfl).symm.trans (hkey c List.mem_cons_self))

theorem asArgument_of_not_beginsWithKey (h : ¬ BeginsWithKey value) : asArgument value = value := by
  unfold asArgument
  dsimp only
  split
  · next rest hrest =>
      by_cases hkey : value.takeWhile Unicode.isWord = []
      · simp [hkey]
      · refine absurd ⟨value.takeWhile Unicode.isWord,
          (value.dropWhile Unicode.isWord).takeWhile Text.isBlank, rest, ?_, hkey,
          List.all_eq_true.1 List.all_takeWhile, List.all_eq_true.1 List.all_takeWhile⟩ h
        rw [← hrest, List.append_assoc, Text.takeWhile_append_dropStart,
          List.takeWhile_append_dropWhile]
  · rfl

theorem asArgument_keyword (hkey : ∀ c ∈ key, Unicode.isWord c = true)
    (hdigit : ∃ c ∈ key, Unicode.isDigit c = false) (hvalue : Whole value) :
    asArgument (key ++ ':' :: ' ' :: value) = key ++ '=' :: value := by
  have hne : key ≠ [] := by
    rintro rfl
    simp at hdigit
  have hdigits : key.all Unicode.isDigit = false := by
    obtain ⟨c, hc, hdigit⟩ := hdigit
    exact List.all_eq_false.2 ⟨c, hc, by simp [hdigit]⟩
  have hword : (key ++ ':' :: ' ' :: value).takeWhile Unicode.isWord = key :=
    Tag.IsWord.takeWhile_eq ⟨hne, hkey, by rintro c ⟨⟩; decide⟩
  have hbehind : (key ++ ':' :: ' ' :: value).dropWhile Unicode.isWord = ':' :: ' ' :: value := by
    rw [List.dropWhile_append_of_pos hkey]
    rfl
  have hcolon : Text.trimStart (':' :: ' ' :: value) = ':' :: ' ' :: value := rfl
  have hvalue' : Text.trimStart (' ' :: value) = value :=
    Text.dropStart_append (u := [' ']) (List.forall_mem_singleton.2 rfl)
      (Text.head?_of_trim hvalue.trim_eq)
  unfold asArgument
  simp only [hword, hbehind, hcolon, hvalue', hdigits]
  simp [hne]

theorem Argument.asArgument_written {a : Argument} (h : a.Proper) :
    asArgument a.written = a.called := by
  cases a with
  | positional value => exact asArgument_of_not_beginsWithKey h.2
  | keyword key value => exact asArgument_keyword h.2.1 h.2.2 h.1

/-- An argument can stand among others as it is written. -/
theorem Argument.whole_written {a : Argument} (h : a.Proper) : Whole a.written := by
  cases a with
  | positional value => exact h.1
  | keyword key value =>
      obtain ⟨hvalue, hkey, hdigit⟩ := h
      refine ⟨by simp [written], Text.trim_eq_self ?_ ?_, ?_⟩
      · intro c hc
        cases key with
        | nil => simp at hdigit
        | cons d key =>
            cases hc
            exact Unicode.isBlank_of_isWord (hkey c List.mem_cons_self)
      · intro c hc
        refine Text.getLast?_of_trim hvalue.trim_eq c ?_
        cases value with
        | nil => exact absurd rfl hvalue.ne_nil
        | cons d value => simpa [written, List.getLast?_append, List.getLast?_cons] using hc
      · refine Bracketed.append (.of_forall fun c hc => plain_of_isWord (hkey c hc)) ?_
        refine .char rfl rfl (by simp [Parts]) (.char rfl rfl (by simp [Parts]) hvalue.bracketed)

/-! ## Splitting -/

theorem fields_of_passed (h : Passed ',' Nesting.top t) : fields t = [t] := by
  have hpass := h []
  rw [List.append_nil] at hpass
  rw [fields]
  split
  · rw [hpass]
    simp [breakAtTop]
  · next hcut =>
      rw [hpass] at hcut
      cases hcut

theorem fields_append (h : Passed ',' Nesting.top t) (z : Text) :
    fields (t ++ ',' :: z) = t :: fields z := by
  have hpass := h (',' :: z)
  have hstop : breakAtTop ',' Nesting.top (',' :: z) = ([], ',' :: z) := rfl
  rw [hstop, List.append_nil] at hpass
  rw [fields]
  split
  · next hcut =>
      rw [hpass] at hcut
      cases hcut
  · next hcut =>
      rw [hpass] at hcut ⊢
      cases hcut
      rfl

theorem Whole.passed {a : Text} (h : Whole a) {stop : Char} (hstop : Parts stop) {b b' : Text}
    (hb : ∀ c ∈ b, Text.isBlank c = true) (hb' : ∀ c ∈ b', Text.isBlank c = true) :
    Passed stop Nesting.top (b ++ a ++ b') := by
  have hbracketed : Bracketed (fun c => ¬ Parts c) (b ++ a ++ b') :=
    ((Bracketed.of_forall fun c hc => plain_of_isBlank (hb c hc)).append h.bracketed).append
      (.of_forall fun c hc => plain_of_isBlank (hb' c hc))
  refine hbracketed.passed ?_ (Int.le_refl 0) (.inl fun c hc => ?_)
  · rcases hstop with rfl | rfl <;> exact ⟨rfl, rfl⟩
  · rintro rfl
    exact hc hstop

/-- Arguments behind a blank are found where they were written. -/
theorem split_joinWith (hne : as ≠ []) (h : ∀ a ∈ as, Whole a) {b : Text}
    (hb : ∀ c ∈ b, Text.isBlank c = true) :
    split (' ' :: (Text.joinWith ", " as ++ b)) = as := by
  have hspace : ∀ c ∈ ([' '] : Text), Text.isBlank c = true := List.forall_mem_singleton.2 rfl
  induction as with
  | nil => exact absurd rfl hne
  | cons a as ih =>
      have ha := h a List.mem_cons_self
      -- The last argument has the blanks at the end behind it, any other one a comma.
      cases as with
      | nil =>
          have hpass := ha.passed (.inl rfl) hspace hb
          have htrim : Text.trim ([' '] ++ a ++ b) = a := by
            rw [Text.trim_append_right hb, Text.trim_append_left hspace, ha.trim_eq]
          rw [Text.joinWith, List.intercalate_singleton]
          rw [List.append_assoc, List.singleton_append] at hpass htrim
          rw [split, fields_of_passed hpass]
          simp [htrim, ha.ne_nil]
      | cons a' as =>
          have hrest := ih (List.cons_ne_nil _ _) fun x hx => h x (List.mem_cons_of_mem a hx)
          have hnone : ∀ c ∈ ([] : Text), Text.isBlank c = true := by simp
          have hpass := ha.passed (.inl rfl) hspace hnone
          have htrim : Text.trim ([' '] ++ a ++ []) = a := by
            rw [List.append_nil, Text.trim_append_left hspace, ha.trim_eq]
          have hjoin : ' ' :: (Text.joinWith ", " (a :: a' :: as) ++ b) =
              ([' '] ++ a ++ []) ++ ',' :: ' ' :: (Text.joinWith ", " (a' :: as) ++ b) := by
            simp [Text.joinWith]
          rw [split] at hrest ⊢
          rw [hjoin, fields_append hpass, List.map_cons, List.filter_cons, htrim, hrest]
          simp [ha.ne_nil]

theorem bracketed_joinWith {outside : Char → Prop} (hcomma : outside ',') (hspace : outside ' ')
    (h : ∀ a ∈ as, Bracketed outside a) : Bracketed outside (Text.joinWith ", " as) := by
  induction as with
  | nil => exact .nil
  | cons a as ih =>
      have ha := h a List.mem_cons_self
      cases as with
      | nil => rwa [Text.joinWith, List.intercalate_singleton]
      | cons a' as =>
          have hrest := ih fun x hx => h x (List.mem_cons_of_mem a hx)
          rw [Text.joinWith] at hrest ⊢
          rw [List.intercalate_cons_cons, List.append_assoc]
          exact ha.append (.char rfl rfl hcomma (.char rfl rfl hspace hrest))

/-- What was joined does not end with a blank. -/
theorem exists_joinWith_concat (hne : as ≠ []) (h : ∀ a ∈ as, Whole a) :
    ∃ u c, Text.joinWith ", " as = u ++ [c] ∧ Text.isBlank c = false := by
  induction as with
  | nil => exact absurd rfl hne
  | cons a as ih =>
      cases as with
      | nil =>
          have ha := h a List.mem_cons_self
          rw [Text.joinWith, List.intercalate_singleton]
          rcases List.eq_nil_or_concat a with rfl | ⟨u, c, rfl⟩
          · exact absurd rfl ha.ne_nil
          · rw [List.concat_eq_append] at ha ⊢
            exact ⟨u, c, rfl, Text.getLast?_of_trim ha.trim_eq c (by simp)⟩
      | cons a' as =>
          obtain ⟨u, c, hu, hc⟩ :=
            ih (List.cons_ne_nil _ _) fun x hx => h x (List.mem_cons_of_mem a hx)
          rw [Text.joinWith] at hu ⊢
          exact ⟨a ++ (", " : Text) ++ u, c, by rw [List.intercalate_cons_cons, hu]; simp, hc⟩

end Arguments

/-! ## Filters -/

section Filters

variable {name rest b w z : Text} {args : List Argument}

/-- The name behind a bar, and what stands behind it. -/
theorem name_behind_bar (hne : name ≠ []) (hname : ∀ c ∈ name, Unicode.isWord c = true)
    (hz : ∀ c ∈ z.head?, Unicode.isWord c = false) :
    (Text.trimStart (' ' :: (name ++ z))).takeWhile Unicode.isWord = name ∧
      (Text.trimStart (' ' :: (name ++ z))).dropWhile Unicode.isWord = z := by
  have htrim : Text.trimStart (' ' :: (name ++ z)) = name ++ z := by
    refine Text.dropStart_append (u := [' ']) (List.forall_mem_singleton.2 rfl) fun c hc => ?_
    cases name with
    | nil => exact absurd rfl hne
    | cons d name =>
        cases hc
        exact Unicode.isBlank_of_isWord (hname c List.mem_cons_self)
  rw [htrim]
  exact ⟨Tag.IsWord.takeWhile_eq ⟨hne, hname, hz⟩, Text.dropStart_append hname hz⟩

theorem head?_of_colon (hne : name ≠ []) (hname : ∀ c ∈ name, Unicode.isWord c = true)
    (rest : Text) : head? (' ' :: (name ++ ':' :: rest)) = some (name, rest) := by
  obtain ⟨hword, hbehind⟩ := name_behind_bar (z := ':' :: rest) hne hname
    (by rintro c ⟨⟩; decide)
  have hcolon : Text.trimStart (':' :: rest) = ':' :: rest := rfl
  unfold head?
  simp only [hword, hbehind, hcolon, hne, if_false]

theorem head?_of_no_colon (hne : name ≠ []) (hname : ∀ c ∈ name, Unicode.isWord c = true)
    (hz : ∀ c ∈ z.head?, Unicode.isWord c = false) (hcolon : (Text.trimStart z).head? ≠ some ':') :
    head? (' ' :: (name ++ z)) = none := by
  obtain ⟨-, hbehind⟩ := name_behind_bar hne hname hz
  unfold head?
  simp only [hbehind]
  split
  · next r hr => exact absurd (by rw [hr]; rfl) hcolon
  · rfl

/-- A call of arguments that stand behind the colon, with blanks behind them. -/
theorem call_arguments (hne : args ≠ []) (hargs : ∀ a ∈ args, a.Proper)
    (hb : ∀ c ∈ b, Text.isBlank c = true) :
    call name (' ' :: (Text.joinWith ", " (args.map Argument.written) ++ b)) =
      ['|', ' '] ++ name ++ ['('] ++ Text.joinWith ", " (args.map Argument.called) ++
        [')'] ++ b := by
  have hwhole : ∀ t ∈ args.map Argument.written, Whole t :=
    List.forall_mem_map.2 fun a ha => Argument.whole_written (hargs a ha)
  have hne' : args.map Argument.written ≠ [] := by simpa using hne
  have hcalled : (args.map Argument.written).map asArgument = args.map Argument.called := by
    rw [List.map_map]
    exact List.map_congr_left fun a ha => Argument.asArgument_written (hargs a ha)
  have hend : Text.takeEnd Text.isBlank
      (' ' :: (Text.joinWith ", " (args.map Argument.written) ++ b)) = b := by
    obtain ⟨u, c, hu, hc⟩ := exists_joinWith_concat hne' hwhole
    rw [hu, List.append_assoc, ← List.cons_append]
    exact Text.takeEnd_append hc hb (' ' :: u)
  rw [call, split_joinWith hne' hwhole hb, hcalled, hend]
  simp

variable {filters : List Filter}

/-- Behind a filter there is nothing, or a blank and the bar of the next one. -/
theorem chain_cases (filters : List Filter) : filters.flatMap Filter.written = [] ∨
    ∃ w, filters.flatMap Filter.written = ' ' :: '|' :: w := by
  cases filters with
  | nil => exact .inl rfl
  | cons f filters =>
      right
      rw [List.flatMap_cons, Filter.written]
      exact ⟨_, rfl⟩

/-- The arguments of a filter go up to the next one. -/
theorem breakAtTop_arguments (hargs : ∀ a ∈ args, a.Proper) (filters : List Filter) :
    ∃ b w, filters.flatMap Filter.written = b ++ w ∧ (∀ c ∈ b, Text.isBlank c = true) ∧
      breakAtTop '|' Nesting.top (' ' :: (Text.joinWith ", " (args.map Argument.written) ++
        filters.flatMap Filter.written)) =
          (' ' :: (Text.joinWith ", " (args.map Argument.written) ++ b), w) := by
  have hbracketed :
      Bracketed (· ≠ '|') (' ' :: Text.joinWith ", " (args.map Argument.written)) := by
    refine .char rfl rfl (by decide) (bracketed_joinWith (by decide) (by decide) ?_)
    refine List.forall_mem_map.2 fun a ha => ?_
    refine (Argument.whole_written (hargs a ha)).bracketed.mono fun c hc => ?_
    rintro rfl
    exact hc (.inr rfl)
  have hpass : Passed '|' Nesting.top (' ' :: Text.joinWith ", " (args.map Argument.written)) :=
    hbracketed.passed ⟨rfl, rfl⟩ (Int.le_refl 0) (.inl fun _ h => h)
  rcases chain_cases filters with hz | ⟨w, hz⟩
  · refine ⟨[], [], hz, by simp, ?_⟩
    rw [hz, ← List.cons_append, hpass]
    rfl
  · refine ⟨[' '], '|' :: w, hz, List.forall_mem_singleton.2 rfl, ?_⟩
    rw [hz, ← List.cons_append, hpass]
    rfl

/-- A text that opens, closes and parts nothing is passed over by the rewriting. -/
theorem closed_of_plain {t : Text}
    (h : ∀ c ∈ t, isQuote c = false ∧ isBracket c = false ∧ ¬ Parts c) :
    Closed (· ≠ '|') t :=
  closed_of_forall fun c hc => ⟨(h c hc).1, fun hbar => (h c hc).2.2 (.inr hbar)⟩

/-- A filter without arguments is passed over. -/
theorem rewrite_bare {f : Filter} (h : f.Proper) (hnone : f.args = []) (filters : List Filter) :
    rewrite none (f.written ++ filters.flatMap Filter.written) =
      f.called ++ rewrite none (filters.flatMap Filter.written) := by
  have hspace : Closed (· ≠ '|') [' '] := .char rfl (by decide) .nil
  have hname : Closed (· ≠ '|') (' ' :: f.name) :=
    .char rfl (by decide) (closed_of_plain fun c hc => plain_of_isWord (h.isWord c hc))
  -- What follows the name is another filter or nothing: no more of the name, and no colon.
  have hz : ∀ c ∈ (filters.flatMap Filter.written).head?, Unicode.isWord c = false := by
    rcases chain_cases filters with hz | ⟨w, hz⟩ <;> rw [hz]
    · simp
    · rintro c ⟨⟩
      decide
  have hcolon : (Text.trimStart (filters.flatMap Filter.written)).head? ≠ some ':' := by
    rcases chain_cases filters with hz | ⟨w, hz⟩ <;> rw [hz]
    · decide
    · exact fun hcolon => by cases hcolon
  have hwritten : f.written ++ filters.flatMap Filter.written =
      [' '] ++ '|' :: ' ' :: (f.name ++ filters.flatMap Filter.written) := by
    simp [Filter.written, hnone]
  calc rewrite none (f.written ++ filters.flatMap Filter.written)
      = [' '] ++ rewrite none ('|' :: ' ' :: (f.name ++ filters.flatMap Filter.written)) := by
        rw [hwritten, rewrite_append hspace]
    _ = [' '] ++ '|' :: rewrite none (' ' :: f.name ++ filters.flatMap Filter.written) := by
        rw [rewrite_bar_of_none (head?_of_no_colon h.ne_nil h.isWord hz hcolon)]
        rfl
    _ = f.called ++ rewrite none (filters.flatMap Filter.written) := by
        rw [rewrite_append hname]
        simp [Filter.called, hnone]

/-- A filter with arguments is called with them. -/
theorem rewrite_call {f : Filter} (h : f.Proper) (hsome : f.args ≠ []) (filters : List Filter) :
    rewrite none (f.written ++ filters.flatMap Filter.written) =
      f.called ++ rewrite none (filters.flatMap Filter.written) := by
  have hspace : Closed (· ≠ '|') [' '] := .char rfl (by decide) .nil
  -- The blank before the next bar is read with the arguments, and set behind the call.
  obtain ⟨b, w, hz, hb, hcut⟩ := breakAtTop_arguments h.proper filters
  have hblanks : Closed (· ≠ '|') b := closed_of_plain fun c hc => plain_of_isBlank (hb c hc)
  have hbehind : rewrite none (filters.flatMap Filter.written) = b ++ rewrite none w := by
    rw [hz, rewrite_append hblanks]
  have hwritten : f.written ++ filters.flatMap Filter.written =
      [' '] ++ '|' :: ' ' :: (f.name ++ ':' :: ' ' ::
        (Text.joinWith ", " (f.args.map Argument.written) ++ filters.flatMap Filter.written)) := by
    simp [Filter.written, hsome]
  calc rewrite none (f.written ++ filters.flatMap Filter.written)
      = [' '] ++ rewrite none ('|' :: ' ' :: (f.name ++ ':' :: ' ' ::
          (Text.joinWith ", " (f.args.map Argument.written) ++
            filters.flatMap Filter.written))) := by
        rw [hwritten, rewrite_append hspace]
    _ = [' '] ++ (call f.name (' ' :: (Text.joinWith ", " (f.args.map Argument.written) ++ b)) ++
          rewrite none w) := by
        rw [rewrite_bar_of_some (head?_of_colon h.ne_nil h.isWord _), hcut]
    _ = f.called ++ (b ++ rewrite none w) := by
        rw [call_arguments hsome h.proper hb]
        simp [Filter.called, hsome]
    _ = f.called ++ rewrite none (filters.flatMap Filter.written) := by
        rw [hbehind]

theorem rewrite_chain (h : ∀ f ∈ filters, f.Proper) :
    rewrite none (filters.flatMap Filter.written) = filters.flatMap Filter.called := by
  induction filters with
  | nil => exact rewrite.eq_1 none
  | cons f filters ih =>
      have hf := h f List.mem_cons_self
      have hrest := ih fun x hx => h x (List.mem_cons_of_mem f hx)
      rw [List.flatMap_cons, List.flatMap_cons]
      by_cases hargs : f.args = []
      · rw [rewrite_bare hf hargs, hrest]
      · rw [rewrite_call hf hargs, hrest]

/-- Every filter of a chain is called with the arguments that were written behind it; what stands
before the chain, and what stands inside of the arguments, is left as it is. -/
theorem toCalls_chain {base : Text} (hbase : Closed (· ≠ '|') base) (h : ∀ f ∈ filters, f.Proper) :
    toCalls (base ++ filters.flatMap Filter.written) = base ++ filters.flatMap Filter.called := by
  rw [toCalls, rewrite_append hbase, rewrite_chain h]

/-- Bars and commas in quotes and brackets part nothing. -/
theorem toCalls_chain_swap :
    Closed (· ≠ '|') "'a|b'" ∧
      (Filter.mk "swap" [.positional "'x, y'", .keyword "by" "z[1, (2)]"]).Proper ∧
        (Filter.mk "trim" []).Proper ∧
          toCalls "'a|b' | swap: 'x, y', by: z[1, (2)] | trim" =
            "'a|b' | swap('x, y', by=z[1, (2)]) | trim" := by
  have hbase : Closed (· ≠ '|') ['\'', 'a', '|', 'b', '\''] :=
    .literal (u := ['a', '|', 'b']) rfl (by decide) .nil
  have hpositional : Bracketed (fun c => ¬ Parts c) ['\'', 'x', ',', ' ', 'y', '\''] :=
    .literal (u := ['x', ',', ' ', 'y']) rfl (by decide) .nil
  have hinside : Bracketed (fun _ => True) ['1', ',', ' ', '(', '2', ')'] :=
    .char rfl rfl trivial <| .char rfl rfl trivial <| .char rfl rfl trivial <|
      .round (u := ['2']) (.char rfl rfl trivial .nil) .nil
  have hkeyword : Bracketed (fun c => ¬ Parts c) ['z', '[', '1', ',', ' ', '(', '2', ')', ']'] :=
    .char rfl rfl (by simp [Parts]) (.square (u := ['1', ',', ' ', '(', '2', ')']) hinside .nil)
  have hswap : (Filter.mk "swap" [.positional "'x, y'", .keyword "by" "z[1, (2)]"]).Proper := by
    refine ⟨by decide, List.all_eq_true.1 rfl, ?_⟩
    simp only [List.forall_mem_cons, List.not_mem_nil, false_implies, implies_true, and_true]
    refine ⟨⟨⟨by decide, rfl, hpositional⟩, not_beginsWithKey (by rintro _ ⟨⟩; decide)⟩,
      ⟨by decide, rfl, hkeyword⟩, List.all_eq_true.1 rfl, 'b', by decide, by decide⟩
  have htrim : (Filter.mk "trim" []).Proper := ⟨by decide, List.all_eq_true.1 rfl, by simp⟩
  exact ⟨hbase, hswap, htrim, toCalls_chain hbase (List.forall_mem_cons.2 ⟨hswap,
    List.forall_mem_singleton.2 htrim⟩)⟩

end Filters

end FilterArguments
end Template
end LiquidMarkdown
