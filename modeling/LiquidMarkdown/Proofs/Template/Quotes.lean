import LiquidMarkdown.Proofs.Template.Filters

/-!
# Quoted literals

The rewriting of filters looks for quotes, and leaves alone what stands between them.  This file
defines:

* `Closed`, `QuotesClosed` — a text in which every quote that is opened is closed, by the next quote
  of its kind;
* `literals` — the quoted literals of a text, with their quotes.

Closed texts can be put together, and their literals are the literals of the parts
(`closed_append_iff`, `literals_append`).  A scan passes a literal as a whole, so that it cuts a
closed text into closed texts (`closed_breakAtTop`); so does the rewriting (`rewrite_append`).
-/

namespace LiquidMarkdown

/-- A text is cut at the first occurrence of a character. -/
theorem Text.breakOn_singleton {c : Char} {u : Text} (hu : c ∉ u) (t : Text) :
    breakOn [c] (u ++ c :: t) = some (u, t) := by
  induction u with
  | nil => simp [breakOn, dropPrefix?]
  | cons d u ih =>
      rw [List.mem_cons, not_or] at hu
      have hnone : dropPrefix? [c] (d :: (u ++ c :: t)) = none := if_neg hu.1
      rw [List.cons_append, breakOn, hnone, ih hu.2]
      rfl

namespace Template
namespace FilterArguments

/-! ## Closed texts -/

/-- Every quote that is opened is closed by the next quote of its kind, and the characters outside
of quotes are of a class. -/
inductive Closed (outside : Char → Prop) : Text → Prop where
  | nil : Closed outside []
  | char {c : Char} {t : Text} (hc : isQuote c = false) (hout : outside c) (h : Closed outside t) :
      Closed outside (c :: t)
  | literal {q : Char} {u t : Text} (hq : isQuote q = true) (hu : q ∉ u) (h : Closed outside t) :
      Closed outside (q :: (u ++ q :: t))

/-- Every quote that is opened is closed by the next quote of its kind. -/
abbrev QuotesClosed (t : Text) : Prop :=
  Closed (fun _ => True) t

section Closed

variable {outside : Char → Prop} {s t u : Text} {c q : Char}

theorem closed_cons_iff (hc : isQuote c = false) :
    Closed outside (c :: t) ↔ outside c ∧ Closed outside t := by
  refine ⟨fun h => ?_, fun h => .char hc h.1 h.2⟩
  cases h with
  | char _ hout h => exact ⟨hout, h⟩
  | literal hq => exact absurd (hc.symm.trans hq) Bool.false_ne_true

theorem closed_literal_iff (hq : isQuote q = true) (hu : q ∉ u) :
    Closed outside (q :: (u ++ q :: t)) ↔ Closed outside t := by
  refine ⟨fun h => ?_, .literal hq hu⟩
  generalize hx : q :: (u ++ q :: t) = x at h
  cases h with
  | nil => cases hx
  | char hc =>
      cases (List.cons.inj hx).1
      exact absurd (hc.symm.trans hq) Bool.false_ne_true
  | @literal q' u' t' _ hu' h =>
      obtain ⟨rfl, hx⟩ := List.cons.inj hx
      -- The literal ends at the first quote of its kind, in either way of reading.
      have hcut := Text.breakOn_singleton hu t
      rw [hx, Text.breakOn_singleton hu' t'] at hcut
      cases hcut
      exact h

/-- What stands behind a closed text is closed, if the whole is. -/
theorem closed_append_iff (hs : Closed outside s) :
    Closed outside (s ++ t) ↔ Closed outside t := by
  induction hs with
  | nil => rfl
  | char hc hout _ ih => rw [List.cons_append, closed_cons_iff hc, ih, and_iff_right hout]
  | literal hq hu _ ih =>
      rw [List.cons_append, List.append_assoc, List.cons_append, closed_literal_iff hq hu, ih]

/-- A text without quotes is closed, if all its characters are of the class. -/
theorem closed_of_forall (h : ∀ c ∈ t, isQuote c = false ∧ outside c) : Closed outside t := by
  induction t with
  | nil => exact .nil
  | cons c t ih =>
      obtain ⟨hc, hout⟩ := h c List.mem_cons_self
      exact .char hc hout (ih fun x hx => h x (List.mem_cons_of_mem c hx))

/-- A text without quotes has no open ones. -/
theorem quotesClosed_of_forall (h : ∀ c ∈ t, isQuote c = false) : QuotesClosed t :=
  closed_of_forall fun c hc => ⟨h c hc, trivial⟩

/-- What stands before a text without quotes is closed, if the whole is. -/
theorem Closed.of_append_left (ht : ∀ c ∈ t, isQuote c = false) (h : Closed outside (s ++ t)) :
    Closed outside s := by
  generalize hx : s ++ t = x at h
  induction h generalizing s with
  | nil =>
      rw [(List.append_eq_nil_iff.1 hx).1]
      exact .nil
  | @char c y hc hout _ ih =>
      cases s with
      | nil => exact .nil
      | cons d s =>
          obtain ⟨rfl, htail⟩ := List.cons.inj hx
          exact .char hc hout (ih htail)
  | @literal q u y hq hu _ ih =>
      cases s with
      | nil => exact .nil
      | cons d s =>
          obtain ⟨rfl, htail⟩ := List.cons.inj hx
          -- A literal that begins in the first part ends there, for the second part holds no quote.
          have hquote : d ∉ t := fun hd => Bool.false_ne_true ((ht d hd).symm.trans hq)
          rcases List.append_eq_append_iff.1 htail with ⟨v, rfl, hv⟩ | ⟨v, rfl, hv⟩
          · exact absurd (hv ▸ List.mem_append_right v List.mem_cons_self) hquote
          · cases v with
            | nil =>
                rw [List.nil_append] at hv
                exact absurd (hv ▸ List.mem_cons_self) hquote
            | cons e v =>
                obtain ⟨rfl, hbehind⟩ := List.cons.inj hv
                exact .literal hq hu (ih hbehind.symm)

/-- So is what stands behind a text without quotes. -/
theorem Closed.of_append_right (hs : ∀ c ∈ s, isQuote c = false) (h : Closed outside (s ++ t)) :
    Closed outside t := by
  induction s with
  | nil => exact h
  | cons c s ih =>
      rw [List.cons_append, closed_cons_iff (hs c List.mem_cons_self)] at h
      exact ih (fun x hx => hs x (List.mem_cons_of_mem c hx)) h.2

theorem isQuote_of_isBlank (h : Text.isBlank c = true) : isQuote c = false := by
  refine Bool.eq_false_iff.2 fun hq => ?_
  simp only [isQuote, Bool.or_eq_true, decide_eq_true_eq] at hq
  rcases hq with rfl | rfl <;> cases h

theorem isQuote_of_isWord (h : Unicode.isWord c = true) : isQuote c = false := by
  refine Bool.eq_false_iff.2 fun hq => ?_
  simp only [isQuote, Bool.or_eq_true, decide_eq_true_eq] at hq
  rcases hq with rfl | rfl <;> exact absurd h (by decide)

/-- A text is its trimmed text between blanks. -/
theorem exists_trim (t : Text) : ∃ a b, t = a ++ Text.trim t ++ b ∧
    (∀ c ∈ a, Text.isBlank c = true) ∧ ∀ c ∈ b, Text.isBlank c = true := by
  refine ⟨t.takeWhile Text.isBlank, Text.takeEnd Text.isBlank (Text.trimStart t), ?_, ?_, ?_⟩
  · rw [List.append_assoc, Text.trim, Text.trimAll, Text.dropEnd_append_takeEnd,
      Text.takeWhile_append_dropStart]
  · exact fun c hc => List.all_eq_true.1 List.all_takeWhile c hc
  · exact fun c hc => List.all_eq_true.1 List.all_takeWhile c (List.mem_reverse.1 hc)

/-- Are all quotes closed at the end of the text, where `quote` is the one that is open at its
start? -/
def closes (quote : Option Char) : Text → Bool
  | [] => quote.isNone
  | c :: cs =>
      match quote with
      | some q => closes (if c = q then none else some q) cs
      | none => closes (if isQuote c then some c else none) cs

theorem closes_quoted (hu : q ∉ u) (t : Text) : closes (some q) (u ++ q :: t) = closes none t := by
  induction u with
  | nil => simp [closes]
  | cons c u ih =>
      rw [List.mem_cons, not_or] at hu
      rw [List.cons_append, closes, if_neg (Ne.symm hu.1), ih hu.2]

theorem exists_of_closes (h : closes (some q) t = true) :
    ∃ u r, t = u ++ q :: r ∧ q ∉ u ∧ closes none r = true := by
  induction t with
  | nil => cases h
  | cons c t ih =>
      rw [closes] at h
      by_cases hc : c = q
      · rw [if_pos hc] at h
        exact ⟨[], t, by rw [hc]; rfl, List.not_mem_nil, h⟩
      · rw [if_neg hc] at h
        obtain ⟨u, r, rfl, hu, hr⟩ := ih h
        exact ⟨c :: u, r, rfl, fun hmem => (List.mem_cons.1 hmem).elim (Ne.symm hc) hu, hr⟩

theorem quotesClosed_iff : QuotesClosed t ↔ closes none t = true := by
  constructor
  · intro h
    induction h with
    | nil => rfl
    | char hc _ _ ih => rwa [closes, hc]
    | literal hq hu _ ih => rwa [closes, if_pos hq, closes_quoted hu]
  · intro h
    generalize hlen : t.length = n
    induction n using Nat.strongRecOn generalizing t with
    | ind n ih =>
        cases t with
        | nil => exact .nil
        | cons c t =>
            rw [List.length_cons] at hlen
            rw [closes] at h
            by_cases hc : isQuote c = true
            · rw [if_pos hc] at h
              obtain ⟨u, r, rfl, hu, hr⟩ := exists_of_closes h
              rw [List.length_append, List.length_cons] at hlen
              exact .literal hc hu (ih r.length (by omega) hr rfl)
            · rw [if_neg hc] at h
              exact .char (Bool.not_eq_true _ ▸ hc) trivial (ih t.length (by omega) h rfl)

instance : DecidablePred QuotesClosed := fun _ =>
  decidable_of_iff _ quotesClosed_iff.symm

end Closed

/-! ## Literals -/

/-- The quoted literals of a text, with their quotes. -/
def literals : Text → List Text
  | [] => []
  | c :: cs =>
      if isQuote c then
        match _h : Text.breakOn [c] cs with
        | some (inside, rest) => (c :: (inside ++ [c])) :: literals rest
        | none => []
      else literals cs
termination_by t => t.length
decreasing_by
  · have := Text.length_lt_of_breakOn (List.cons_ne_nil _ _) _h
    simp only [List.length_cons]
    omega
  · exact Nat.lt_succ_self _

section Literals

variable {s t u : Text} {c q : Char}

theorem literals_cons (hc : isQuote c = false) : literals (c :: t) = literals t := by
  rw [literals, hc]
  rfl

theorem literals_literal (hq : isQuote q = true) (hu : q ∉ u) :
    literals (q :: (u ++ q :: t)) = (q :: (u ++ [q])) :: literals t := by
  have hcut := Text.breakOn_singleton hu t
  rw [literals, if_pos hq]
  split
  · next h =>
      rw [hcut] at h
      cases h
      rfl
  · next h =>
      rw [hcut] at h
      cases h

/-- The literals of texts one after another. -/
theorem literals_append {outside : Char → Prop} (hs : Closed outside s) (t : Text) :
    literals (s ++ t) = literals s ++ literals t := by
  induction hs with
  | nil => rw [literals, List.nil_append, List.nil_append]
  | char hc _ _ ih => rw [List.cons_append, literals_cons hc, literals_cons hc, ih]
  | literal hq hu _ ih =>
      rw [List.cons_append, List.append_assoc, List.cons_append, literals_literal hq hu,
        literals_literal hq hu, ih, List.cons_append]

theorem literals_eq_nil (h : ∀ c ∈ t, isQuote c = false) : literals t = [] := by
  induction t with
  | nil => rw [literals]
  | cons c t ih =>
      rw [literals_cons (h c List.mem_cons_self), ih fun x hx => h x (List.mem_cons_of_mem c hx)]

/-- A text without quotes before another one has no literals. -/
theorem literals_append_of_forall (h : ∀ c ∈ s, isQuote c = false) (t : Text) :
    literals (s ++ t) = literals t := by
  rw [literals_append (quotesClosed_of_forall h), literals_eq_nil h, List.nil_append]

end Literals

/-! ## Scans -/

section Scans

variable {stop q : Char} {n : Nesting} {t u : Text}

/-- Inside quotes, a scan goes on up to the end of the literal. -/
theorem breakAtTop_quoted (hn : n.quote = some q) (hu : q ∉ u) :
    breakAtTop stop n (u ++ q :: t) =
      (u ++ q :: (breakAtTop stop { n with quote := none } t).1,
        (breakAtTop stop { n with quote := none } t).2) := by
  have hinside : ∀ c : Char, (c = stop && n.quote.isNone && n.depth ≤ 0) = false := by
    intro c
    rw [hn]
    simp
  induction u with
  | nil =>
      have hpush : n.push q = { n with quote := none } := by simp [Nesting.push, hn]
      rw [List.nil_append, breakAtTop, hinside, hpush]
      rfl
  | cons c u ih =>
      rw [List.mem_cons, not_or] at hu
      have hpush : n.push c = n := by simp [Nesting.push, hn, Ne.symm hu.1]
      rw [List.cons_append, breakAtTop, hinside, hpush, ih hu.2]
      rfl

/-- A scan passes a literal. -/
theorem breakAtTop_literal (hstop : isQuote stop = false) (hn : n.quote = none)
    (hq : isQuote q = true) (hu : q ∉ u) :
    breakAtTop stop n (q :: (u ++ q :: t)) =
      (q :: (u ++ q :: (breakAtTop stop n t).1), (breakAtTop stop n t).2) := by
  have hne : q ≠ stop := by
    rintro rfl
    exact Bool.false_ne_true (hstop.symm.trans hq)
  have hpush : n.push q = { n with quote := some q } := by simp [Nesting.push, hn, hq]
  have hback : ({ n with quote := none } : Nesting) = n := by rw [← hn]
  have hinside : breakAtTop stop { n with quote := some q } (u ++ q :: t) =
      (u ++ q :: (breakAtTop stop { n with quote := none } t).1,
        (breakAtTop stop { n with quote := none } t).2) :=
    breakAtTop_quoted rfl hu
  rw [breakAtTop, hpush, hinside, hback]
  simp [hne]

/-- What a scan stops at is the character that it looks for. -/
theorem eq_of_breakAtTop {c : Char} {rest : Text} (h : (breakAtTop stop n t).2 = c :: rest) :
    c = stop := by
  induction t generalizing n with
  | nil => cases h
  | cons d t ih =>
      rw [breakAtTop] at h
      split at h
      · next hd =>
          cases h
          simp only [Bool.and_eq_true, decide_eq_true_eq] at hd
          exact hd.1.1
      · exact ih h

/-- A scan that begins outside quotes cuts outside quotes. -/
theorem closed_breakAtTop {outside : Char → Prop} (stop : Char) (n : Nesting)
    (hstop : isQuote stop = false) (hn : n.quote = none) (ht : Closed outside t) :
    Closed outside (breakAtTop stop n t).1 ∧ Closed outside (breakAtTop stop n t).2 := by
  induction ht generalizing n with
  | nil => exact ⟨.nil, .nil⟩
  | @char c t hc hout ht ih =>
      rw [breakAtTop]
      split
      · exact ⟨.nil, .char hc hout ht⟩
      · have hpush : (n.push c).quote = none := by
          simp only [Nesting.push, hn, hc]
          split_ifs <;> simp_all
        exact ⟨.char hc hout (ih _ hpush).1, (ih _ hpush).2⟩
  | literal hq hu _ ih =>
      rw [breakAtTop_literal hstop hn hq hu]
      exact ⟨.literal hq hu (ih n hn).1, (ih n hn).2⟩

end Scans

/-! ## Rewriting -/

section Rewriting

variable {q : Char} {s t u : Text}

/-- Inside quotes, nothing is rewritten up to the end of the literal. -/
theorem rewrite_quoted (hu : q ∉ u) (t : Text) :
    rewrite (some q) (u ++ q :: t) = u ++ q :: rewrite none t := by
  induction u with
  | nil => rw [List.nil_append, rewrite, if_pos rfl, List.nil_append]
  | cons c u ih =>
      rw [List.mem_cons, not_or] at hu
      rw [List.cons_append, rewrite, if_neg (Ne.symm hu.1), ih hu.2, List.cons_append]

/-- A closed text without bars outside of quotes is passed over. -/
theorem rewrite_append (hs : Closed (· ≠ '|') s) (t : Text) :
    rewrite none (s ++ t) = s ++ rewrite none t := by
  induction hs with
  | nil => rfl
  | char hc hbar _ ih =>
      rw [List.cons_append, rewrite, if_neg (Bool.not_eq_true _ ▸ hc), if_neg hbar, ih,
        List.cons_append]
  | literal hq hu _ ih =>
      rw [List.cons_append, List.append_assoc, List.cons_append, rewrite, if_pos hq,
        rewrite_quoted hu, ih, List.cons_append, List.append_assoc, List.cons_append]

theorem rewrite_bar_of_none (h : head? t = none) :
    rewrite none ('|' :: t) = '|' :: rewrite none t := by
  rw [rewrite, if_neg (by decide), if_pos rfl]
  split
  · next hsome =>
      rw [h] at hsome
      cases hsome
  · rfl

theorem rewrite_bar_of_some {name rest : Text} (h : head? t = some (name, rest)) :
    rewrite none ('|' :: t) = call name (breakAtTop '|' Nesting.top rest).1 ++
      rewrite none (breakAtTop '|' Nesting.top rest).2 := by
  rw [rewrite, if_neg (by decide), if_pos rfl]
  split
  · next hsome =>
      rw [h] at hsome
      cases hsome
      rfl
  · next hnone =>
      rw [h] at hnone
      cases hnone

end Rewriting

end FilterArguments
end Template
end LiquidMarkdown
