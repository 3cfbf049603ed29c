import LiquidMarkdown.Proofs.Template.Law

/-!
# Local readers

A reader that stops before the end of a tag does not see what stands behind that end.  This file
defines:

* `Drops` — a reader that leaves an end of its list;
* `Ending` — the end of a tag, with the one token that stands behind it in a short list and the
  tokens that stand behind it in a long one;
* `Local` — two readers of which the second makes of the long list what the first makes of the short
  one, wherever the first stops before the end of the tag;
* `LocalAhead` — the same for lists with a token before the end of the tag.

Every way of putting readers together that the grammar uses keeps them local (`localLaw`).  Only
`peek` has to be told that a token stands ahead.
-/

namespace LiquidMarkdown
namespace Template
namespace Parse

variable {α β ι : Type}

/-- A sequence of readers comes to an end where both do. -/
theorem bind_eq_ok {p : Parse α} {f : α → Parse β} {ts rest : List Token} {y : β} :
    (p >>= f) ts = .ok (y, rest) ↔
      ∃ x left, p ts = .ok (x, left) ∧ f x left = .ok (y, rest) := by
  change (p ts >>= fun r : α × List Token => f r.1 r.2) = .ok (y, rest) ↔ _
  constructor
  · intro h
    cases hp : p ts with
    | error e =>
        rw [hp] at h
        cases h
    | ok r =>
        rw [hp] at h
        exact ⟨r.1, r.2, rfl, h⟩
  · rintro ⟨x, left, hp, hf⟩
    rw [hp]
    exact hf

theorem eq_of_checked {ts rest : List Token} (h : checked ts = .ok rest) : rest = ts := by
  unfold checked at h
  split at h
  · cases h
  · cases h
    rfl

theorem run_eq_ok {p : Parse α} {ts : List Token} (hc : checked ts = .ok ts) {x : α} :
    run p ts = .ok x ↔ ∃ rest, p ts = .ok (x, rest) := by
  unfold run
  rw [hc]
  change (p ts >>= fun r : α × List Token => Except.ok r.1) = .ok x ↔ _
  constructor
  · intro h
    cases hp : p ts with
    | error e =>
        rw [hp] at h
        cases h
    | ok r =>
        rw [hp] at h
        cases h
        exact ⟨r.2, rfl⟩
  · rintro ⟨rest, h⟩
    rw [h]
    rfl

theorem current_bind {t : Token} {ts : List Token} {f : Token → Parse α} :
    (current >>= f) (t :: ts) = f t (t :: ts) :=
  rfl

theorem advance_cons {t : Token} {ts : List Token} (hne : ts ≠ []) :
    advance (t :: ts) = (checked ts).map fun rest => (t, rest) := by
  cases ts with
  | nil => exact absurd rfl hne
  | cons u ts => rfl

/-- What is taken is the head of the list, and the rest is left. -/
theorem eq_of_advance_cons {t u : Token} {ts rest : List Token} (hne : ts ≠ [])
    (h : advance (t :: ts) = .ok (u, rest)) : (checked ts = .ok ts ∧ u = t) ∧ rest = ts := by
  rw [advance_cons hne] at h
  cases hc : checked ts with
  | error e =>
      rw [hc] at h
      cases h
  | ok left =>
      obtain rfl := eq_of_checked hc
      rw [hc] at h
      cases h
      exact ⟨⟨rfl, rfl⟩, rfl⟩

theorem peek_cons {t : Token} {ts : List Token} (hne : ts ≠ []) :
    peek (t :: ts) = (checked ts).map fun _ => ((ts.headD nothing).kind, t :: ts) := by
  cases ts with
  | nil => exact absurd rfl hne
  | cons u ts => rfl

/-- A repetition comes to an end with its first round, or goes on after a round that took a token.
-/
theorem iterate_eq_ok {round : α → Parse (α ⊕ β)} {a : α} {ts rest : List Token} {y : β} :
    iterate round a ts = .ok (y, rest) ↔ round a ts = .ok (.inr y, rest) ∨
      ∃ b left, round a ts = .ok (.inl b, left) ∧ left.length < ts.length ∧
        iterate round b left = .ok (y, rest) := by
  rw [iterate]
  constructor
  · intro h
    split at h
    · cases h
    · next hr =>
        cases h
        exact .inl hr
    · next b left hr =>
        split at h
        · next hlt => exact .inr ⟨b, left, hr, hlt, h⟩
        · cases h
  · rintro (hr | ⟨b, left, hr, hlt, h⟩)
    · rw [hr]
    · rw [hr]
      exact (if_pos hlt).trans h

/-- The reader for calls from within a list of `n` tokens. -/
def below (rule : (ι → Parse α) → ι → Parse α) (n : Nat) (i : ι) : Parse α := fun rest =>
  if rest.length < n then recursive rule i rest
  else .error ⟨(rest.headD nothing).line, .stalled⟩

theorem recursive_eq (rule : (ι → Parse α) → ι → Parse α) (i : ι) (ts : List Token) :
    recursive rule i ts = rule (below rule ts.length) i ts := by
  rw [recursive]
  rfl

theorem below_eq_ok {rule : (ι → Parse α) → ι → Parse α} {n : Nat} {i : ι} {ts rest : List Token}
    {x : α} : below rule n i ts = .ok (x, rest) ↔
      ts.length < n ∧ rule (below rule ts.length) i ts = .ok (x, rest) := by
  rw [← recursive_eq rule, below]
  constructor
  · intro h
    split at h
    · next hlt => exact ⟨hlt, h⟩
    · cases h
  · rintro ⟨hlt, h⟩
    rw [if_pos hlt, h]

/-! ## Readers leave an end of their list -/

/-- What the reader leaves is an end of the list that it was given. -/
def Drops (p : Parse α) : Prop :=
  ∀ ts x rest, p ts = .ok (x, rest) → rest <:+ ts

namespace Drops

theorem pure (x : α) : Drops (Pure.pure x) := by
  intro ts y rest h
  cases h
  exact List.suffix_rfl

theorem throw (e : Problem) : Drops (throw e : Parse α) := by
  intro ts x rest h
  cases h

theorem bind {p : Parse α} {f : α → Parse β} (hp : Drops p) (hf : ∀ x, Drops (f x)) :
    Drops (p >>= f) := by
  intro ts y rest h
  obtain ⟨x, left, hx, hy⟩ := bind_eq_ok.1 h
  exact (hf x left y rest hy).trans (hp ts x left hx)

theorem current : Drops current := by
  intro ts t rest h
  cases h
  exact List.suffix_rfl

theorem advance : Drops advance := by
  intro ts t rest h
  cases ts with
  | nil =>
      cases h
      exact List.suffix_rfl
  | cons u ts =>
      by_cases hne : ts = []
      · subst hne
        cases h
        exact List.suffix_rfl
      · rw [(eq_of_advance_cons hne h).2]
        exact List.suffix_cons _ _

theorem peek : Drops peek := by
  intro ts k rest h
  cases ts with
  | nil =>
      cases h
      exact List.suffix_rfl
  | cons u ts =>
      by_cases hne : ts = []
      · subst hne
        cases h
        exact List.suffix_rfl
      · rw [peek_cons hne] at h
        cases hc : checked ts with
        | error e =>
            rw [hc] at h
            cases h
        | ok left =>
            rw [hc] at h
            cases h
            exact List.suffix_rfl

theorem iterate {round : α → Parse (α ⊕ β)} (h : ∀ a, Drops (round a)) (a : α) :
    Drops (iterate round a) := by
  intro ts
  -- Every round takes a token, so the induction is on the number of tokens that are left.
  induction hn : ts.length using Nat.strongRecOn generalizing a ts with
  | ind n ih =>
      intro y rest hy
      subst hn
      rcases iterate_eq_ok.1 hy with hr | ⟨b, left, hr, hlt, hy⟩
      · exact h a ts _ _ hr
      · exact (ih _ hlt b left rfl y rest hy).trans (h a ts _ _ hr)

end Drops

/-! ## Local readers -/

/-- The end of a tag, the token that stands behind it in a short list, and what stands behind it in
a long one. -/
structure Ending where
  stop : Token
  last : Token
  more : List Token
  isEnd : stop.kind = .blockEnd

namespace Ending

variable {E : Ending}

/-- The tokens before the end of the tag, with a single token behind it. -/
def short (E : Ending) (ts : List Token) : List Token :=
  ts ++ [E.stop, E.last]

/-- The tokens before the end of the tag, with all that stands behind it. -/
def long (E : Ending) (ts : List Token) : List Token :=
  ts ++ E.stop :: E.more

theorem short_cons (t : Token) (ts : List Token) : E.short (t :: ts) = t :: E.short ts :=
  rfl

theorem long_cons (t : Token) (ts : List Token) : E.long (t :: ts) = t :: E.long ts :=
  rfl

theorem short_ne_nil (ts : List Token) : E.short ts ≠ [] := by
  simp [short]

theorem long_ne_nil (ts : List Token) : E.long ts ≠ [] := by
  simp [long]

theorem checked_stop (ts : List Token) : checked (E.stop :: ts) = .ok (E.stop :: ts) := by
  have h := E.isEnd
  cases hstop : E.stop with
  | mk line kind =>
      rw [hstop] at h
      cases h
      rfl

/-- Both lists begin with the same token. -/
theorem headD_long (ts : List Token) (t : Token) : (E.long ts).headD t = (E.short ts).headD t := by
  cases ts <;> rfl

theorem checked_short (ts : List Token) :
    checked (E.short ts) = .ok (E.short ts) ↔ checked (E.long ts) = .ok (E.long ts) := by
  cases ts with
  | nil => exact iff_of_true (checked_stop _) (checked_stop _)
  | cons t ts =>
      rw [short_cons, long_cons]
      cases t with
      | mk line kind => cases kind <;> simp [checked]

/-- An end of the short list that is not shorter than the end of the tag is short itself. -/
theorem eq_short_of_suffix {ts us left : List Token} (h : E.short us <:+ left)
    (h' : left <:+ E.short ts) : ∃ vs, left = E.short vs := by
  rcases h with ⟨vs, rfl⟩
  exact ⟨vs ++ us, by simp [short]⟩

theorem short_inj {ts us : List Token} (h : E.short ts = E.short us) : ts = us :=
  List.append_cancel_right h

/-- Tokens are taken from both lists alike. -/
theorem length_short_lt {ts us : List Token} :
    (E.short ts).length < (E.short us).length ↔ (E.long ts).length < (E.long us).length := by
  simp [short, long]

theorem length_long_lt {n : Nat} {ts : List Token} (h : (E.short ts).length < n) :
    (E.long ts).length < n + E.more.length := by
  simp only [short, long, List.length_append, List.length_cons] at h ⊢
  omega

theorem length_lt_of_short {ts us : List Token}
    (h : (E.short ts).length < (E.short us).length) : ts.length < us.length := by
  simpa [short] using h

end Ending

/-- The second reader makes of the long list what the first makes of the short one, wherever the
first stops before the end of the tag. -/
structure Local (E : Ending) (p q : Parse α) : Prop where
  drops : Drops p
  long : ∀ ts x us, p (E.short ts) = .ok (x, E.short us) → q (E.long ts) = .ok (x, E.long us)

variable {E : Ending}

namespace Local

theorem pure (x : α) : Local E (Pure.pure x) (Pure.pure x) := by
  refine ⟨.pure x, fun ts y us h => ?_⟩
  obtain ⟨rfl, hts⟩ := Prod.mk.inj (Except.ok.inj h)
  rw [Ending.short_inj hts]
  rfl

theorem throw (e : Problem) (q : Parse α) : Local E (throw e) q := by
  refine ⟨.throw e, fun ts y us h => ?_⟩
  cases h

theorem bind {p q : Parse α} {f g : α → Parse β} (hp : Local E p q)
    (hf : ∀ x, Local E (f x) (g x)) : Local E (p >>= f) (q >>= g) := by
  refine ⟨hp.drops.bind fun x => (hf x).drops, fun ts y us h => ?_⟩
  obtain ⟨x, left, hx, hy⟩ := bind_eq_ok.1 h
  -- The first reader has not gone beyond the end of the tag, since the second stops before it.
  obtain ⟨vs, rfl⟩ := Ending.eq_short_of_suffix ((hf x).drops _ _ _ hy) (hp.drops _ _ _ hx)
  exact bind_eq_ok.2 ⟨x, E.long vs, hp.long ts x vs hx, (hf x).long vs y us hy⟩

theorem current : Local E current current := by
  refine ⟨.current, fun ts t us h => ?_⟩
  obtain ⟨rfl, hts⟩ := Prod.mk.inj (Except.ok.inj h)
  rw [Ending.short_inj hts, Parse.current, Ending.headD_long]

theorem advance : Local E advance advance := by
  refine ⟨.advance, fun ts t us h => ?_⟩
  cases ts with
  | nil =>
      -- Behind the end of the tag only one token is left, which is no short list.
      obtain ⟨_, hus⟩ := eq_of_advance_cons (List.cons_ne_nil E.last []) h
      simpa [Ending.short] using congrArg List.length hus
  | cons u ts =>
      rw [Ending.short_cons] at h
      obtain ⟨hc, hus⟩ := eq_of_advance_cons (Ending.short_ne_nil ts) h
      rw [Ending.short_inj hus, Ending.long_cons, advance_cons (Ending.long_ne_nil ts),
        (Ending.checked_short ts).1 hc.1, hc.2]
      rfl

/-! ### Repetition and recursion -/

theorem iterate {round round' : α → Parse (α ⊕ β)} (h : ∀ a, Local E (round a) (round' a))
    (a : α) : Local E (iterate round a) (iterate round' a) := by
  refine ⟨.iterate (fun a => (h a).drops) a, fun ts => ?_⟩
  induction hn : ts.length using Nat.strongRecOn generalizing a ts with
  | ind n ih =>
      intro y us hy
      subst hn
      rcases iterate_eq_ok.1 hy with hr | ⟨b, left, hr, hlt, hy⟩
      · exact iterate_eq_ok.2 (.inl ((h a).long ts _ us hr))
      · obtain ⟨vs, rfl⟩ := Ending.eq_short_of_suffix
          (Drops.iterate (fun a => (h a).drops) b _ _ _ hy) ((h a).drops _ _ _ hr)
        refine iterate_eq_ok.2 (.inr ⟨b, E.long vs, (h a).long ts _ vs hr, ?_, ?_⟩)
        · exact Ending.length_short_lt.1 hlt
        · exact ih _ (Ending.length_lt_of_short hlt) b vs rfl y us hy

/-- Calls from within two lists are local, if as many tokens may be left in the long list as in the
short one.  The calls may differ in their arguments, as long as this does not show in what is read.
-/
theorem below {R : ι → ι → Prop} {rule : (ι → Parse α) → ι → Parse α}
    (h : ∀ inner inner', (∀ j j', R j j' → Local E (inner j) (inner' j')) →
      ∀ i i', R i i' → Local E (rule inner i) (rule inner' i')) {m n : Nat}
    (hmn : ∀ us, (E.short us).length < m → (E.long us).length < n) {i i' : ι} (hi : R i i') :
    Local E (Parse.below rule m i) (Parse.below rule n i') := by
  -- A call from within a list of `m` tokens makes its own calls from within a shorter list.
  induction m using Nat.strongRecOn generalizing n i i' with
  | ind m ih =>
      refine ⟨fun ts x rest hx => ?_, fun ts x us hx => ?_⟩
      · obtain ⟨hlt, hx⟩ := below_eq_ok.1 hx
        have hrule := h _ (Parse.below rule (ts.length + E.more.length))
          (fun j j' hj => ih ts.length hlt (fun us => Ending.length_long_lt) hj) i i' hi
        exact hrule.drops ts x rest hx
      · obtain ⟨hlt, hx⟩ := below_eq_ok.1 hx
        refine below_eq_ok.2 ⟨hmn ts hlt, ?_⟩
        exact (h _ _ (fun j j' hj => ih _ hlt (fun us => Ending.length_short_lt.1) hj) i i' hi).long
          ts x us hx

theorem recursive {R : ι → ι → Prop} {rule : (ι → Parse α) → ι → Parse α}
    (h : ∀ inner inner', (∀ j j', R j j' → Local E (inner j) (inner' j')) →
      ∀ i i', R i i' → Local E (rule inner i) (rule inner' i')) {i i' : ι} (hi : R i i') :
    Local E (recursive rule i) (recursive rule i') := by
  refine ⟨fun ts x rest hx => ?_, fun ts x us hx => ?_⟩
  · rw [recursive_eq] at hx
    have hrule := h _ (Parse.below rule (ts.length + E.more.length))
      (fun j j' hj => below h (fun us => Ending.length_long_lt) hj) i i' hi
    exact hrule.drops ts x rest hx
  · rw [recursive_eq] at hx ⊢
    exact (h _ _ (fun j j' hj => below h (fun us => Ending.length_short_lt.1) hj) i i' hi).long
      ts x us hx

end Local

/-! ## Looking ahead -/

/-- The second reader makes of the long list what the first makes of the short one, for lists with a
token before the end of the tag. -/
structure LocalAhead (E : Ending) (p q : Parse α) : Prop where
  drops : Drops p
  long : ∀ t ts x us, p (E.short (t :: ts)) = .ok (x, E.short us) →
    q (E.long (t :: ts)) = .ok (x, E.long us)

theorem Local.ahead {p q : Parse α} (h : Local E p q) : LocalAhead E p q :=
  ⟨h.drops, fun t ts => h.long (t :: ts)⟩

namespace LocalAhead

theorem peek : LocalAhead E peek peek := by
  refine ⟨.peek, fun t ts k us h => ?_⟩
  rw [Ending.short_cons, peek_cons (Ending.short_ne_nil ts)] at h
  cases hc : checked (E.short ts) with
  | error e =>
      rw [hc] at h
      cases h
  | ok left =>
      obtain rfl := eq_of_checked hc
      rw [hc] at h
      obtain ⟨rfl, hus⟩ := Prod.mk.inj (Except.ok.inj h)
      rw [Ending.long_cons, peek_cons (Ending.long_ne_nil ts), (Ending.checked_short ts).1 hc,
        Ending.headD_long, ← Ending.short_inj ((Ending.short_cons t ts).trans hus)]
      rfl

/-- After a look ahead the list is as it was. -/
theorem bind {p q : Parse α} {f g : α → Parse β} (hp : LocalAhead E p q)
    (hf : ∀ x, Local E (f x) (g x)) : LocalAhead E (p >>= f) (q >>= g) := by
  refine ⟨hp.drops.bind fun x => (hf x).drops, fun t ts y us h => ?_⟩
  obtain ⟨x, left, hx, hy⟩ := bind_eq_ok.1 h
  obtain ⟨vs, rfl⟩ := Ending.eq_short_of_suffix ((hf x).drops _ _ _ hy) (hp.drops _ _ _ hx)
  exact bind_eq_ok.2 ⟨x, E.long vs, hp.long t ts x vs hx, (hf x).long vs y us hy⟩

end LocalAhead

/-- A token of any other kind stands before the end of the tag. -/
theorem Local.kind_bind {f g : Token.Kind → Parse α} (hend : Local E (f .blockEnd) (g .blockEnd))
    (hf : ∀ k, k ≠ .blockEnd → LocalAhead E (f k) (g k)) :
    Local E (Parse.kind >>= f) (Parse.kind >>= g) := by
  refine ⟨(Drops.current.bind fun t => .pure t.kind).bind fun k => ?_, fun ts y us h => ?_⟩
  · by_cases hk : k = .blockEnd
    · rw [hk]
      exact hend.drops
    · exact (hf k hk).drops
  · cases ts with
    | nil =>
        change f E.stop.kind (E.short []) = _ at h
        change g E.stop.kind (E.long []) = _
        rw [E.isEnd] at h ⊢
        exact hend.long [] y us h
    | cons t ts =>
        change f t.kind (E.short (t :: ts)) = _ at h
        change g t.kind (E.long (t :: ts)) = _
        by_cases hk : t.kind = .blockEnd
        · rw [hk] at h ⊢
          exact hend.long _ y us h
        · exact (hf t.kind hk).long t ts y us h

/-- What stands behind the end of a tag is of no account. -/
def localLaw (E : Ending) : Law where
  rel := Local E
  ahead := LocalAhead E
  rel_pure := Local.pure
  rel_bind := Local.bind
  rel_current := Local.current
  rel_advance := Local.advance
  rel_failAt _ _ _ _ := Local.throw _ _
  rel_iterate := Local.iterate
  rel_recursive h _ _ hi := Local.recursive h hi
  ahead_of_rel := Local.ahead
  ahead_peek := LocalAhead.peek
  ahead_bind := LocalAhead.bind
  rel_kind_bind := Local.kind_bind

end Parse
end Template
end LiquidMarkdown
