import LiquidMarkdown.Proofs.Template.Local

/-!
# Readers make progress

A repetition stops with a problem of its own where a round takes no token, and so does a recursion
where a call has no fewer tokens than its caller.  No reader of the grammar comes to such a stop on
a list that the scanner has closed.  This file defines:

* `Closed`, `Readable` — lists that come to an end as the scanner's do, and those of them whose
  first token can be read;
* `Outcome` — what a reader may come to: a value with no more tokens left than there were, or a
  problem of the template;
* `ReadsTo` — given fewer than `n` tokens, a reader comes to such an outcome, and has taken a token
  wherever its value says so;
* `ReadsAt` — it does so on lists whose first token is of a certain kind;
* `Reads`, `Consumes` — it does so whether it takes a token or not, and always takes one;
* `GoesOn` — a round of a repetition is not its last, and has to take a token.

The bound `n` is what a call from within has to keep: `ReadsTo.recursive` asks of a rule that it
calls its readers only with fewer tokens than it was given.
-/

namespace LiquidMarkdown
namespace Template
namespace Parse

variable {α β ι : Type}

/-! ## Token lists -/

/-- The list comes to an end with the end of the template or with a fault, and no fault in it is a
stop of the grammar. -/
structure Closed (ts : List Token) : Prop where
  last : ∃ t ∈ ts.getLast?, t.kind = .eof ∨ ∃ c, t.kind = .fault c
  fault : ∀ t ∈ ts, t.kind ≠ .fault .stalled

/-- The list is closed, and its first token is no fault. -/
structure Readable (ts : List Token) : Prop extends Closed ts where
  checked : checked ts = .ok ts

theorem Closed.tail {t : Token} {ts : List Token} (h : Closed (t :: ts)) (hne : ts ≠ []) :
    Closed ts := by
  obtain ⟨u, us, rfl⟩ := List.exists_cons_of_ne_nil hne
  have hlast := h.last
  rw [List.getLast?_cons_cons] at hlast
  exact ⟨hlast, fun t ht => h.fault t (List.mem_cons_of_mem _ ht)⟩

/-- A closed list can be read, or begins with what the scanner could not read. -/
theorem Closed.checked {ts : List Token} (h : Closed ts) :
    Parse.checked ts = .ok ts ∧ Readable ts ∨
      ∃ p, Parse.checked ts = .error p ∧ p.cause ≠ .stalled := by
  unfold Parse.checked
  split
  · next n c us =>
      refine .inr ⟨⟨n, c⟩, rfl, fun hc => ?_⟩
      exact h.fault ⟨n, .fault c⟩ List.mem_cons_self (congrArg _ hc)
  · next hno =>
      refine .inl ⟨rfl, h, ?_⟩
      unfold Parse.checked
      split
      · exact absurd rfl (hno _ _ _)
      · rfl

/-- Where the template does not end, a token can be taken, and the list behind it is closed. -/
theorem Readable.exists_cons {ts : List Token} (h : Readable ts)
    (hk : (ts.headD nothing).kind ≠ .eof) : ∃ t us, ts = t :: us ∧ us ≠ [] ∧ Closed us := by
  cases ts with
  | nil => exact absurd rfl hk
  | cons t us =>
      by_cases hnil : us = []
      · subst hnil
        obtain ⟨u, hu, heof | ⟨c, hc⟩⟩ := h.last
        · cases hu
          exact absurd heof hk
        · cases hu
          rcases t with ⟨n, k⟩
          cases hc
          cases h.checked
      · exact ⟨t, us, rfl, hnil, h.toClosed.tail hnil⟩

/-! ## Outcomes -/

/-- What a reader may come to, given `m` tokens: a value, with no more tokens left and with fewer if
the value says that one was `took`; or a problem that is no stop of the grammar. -/
inductive Outcome (took : α → Prop) (m : Nat) : Except Problem (α × List Token) → Prop
  | ok {x : α} {rest : List Token} : Readable rest → rest.length ≤ m →
      (took x → rest.length < m) → Outcome took m (.ok (x, rest))
  | error {p : Problem} : p.cause ≠ .stalled → Outcome took m (.error p)

/-- Given fewer than `n` tokens, the first of which is of the kind `k`, the reader comes to such an
outcome. -/
def ReadsAt (k : Token.Kind) (n : Nat) (took : α → Prop) (p : Parse α) : Prop :=
  ∀ ts, Readable ts → (ts.headD nothing).kind = k → ts.length < n → Outcome took ts.length (p ts)

/-- Given fewer than `n` tokens, the reader comes to such an outcome. -/
def ReadsTo (n : Nat) (took : α → Prop) (p : Parse α) : Prop :=
  ∀ k, ReadsAt k n took p

/-- Given fewer than `n` tokens, the reader leaves no more. -/
abbrev Reads (n : Nat) (p : Parse α) : Prop :=
  ReadsTo n (fun _ => False) p

/-- Given fewer than `n` tokens, the reader takes one. -/
abbrev Consumes (n : Nat) (p : Parse α) : Prop :=
  ReadsTo n (fun _ => True) p

variable {n m : Nat} {k : Token.Kind} {took : α → Prop} {taken : β → Prop}

namespace Outcome

/-- An outcome from fewer tokens is one from more, and then a token was taken. -/
theorem weaken {took' : α → Prop} {r : Except Problem (α × List Token)} (h : Outcome took n r)
    (hle : n ≤ m) (htook : ∀ x, took' x → n < m ∨ took x) : Outcome took' m r := by
  cases h with
  | error hp => exact .error hp
  | @ok x rest hrest hn hlt =>
      refine .ok hrest (Nat.le_trans hn hle) fun hx => ?_
      rcases htook x hx with hnm | hx
      · exact Nat.lt_of_le_of_lt hn hnm
      · exact Nat.lt_of_lt_of_le (hlt hx) hle

/-- What follows starts from fewer tokens where one was taken. -/
theorem bind {r : Except Problem (α × List Token)} {f : α → Parse β} (h : Outcome took m r)
    (hyes : ∀ x rest, took x → Readable rest → rest.length < m →
      Outcome (fun _ => False) rest.length (f x rest))
    (hno : ∀ x rest, ¬ took x → Readable rest → rest.length ≤ m →
      Outcome taken rest.length (f x rest)) :
    Outcome taken m (r >>= fun r => f r.1 r.2) := by
  cases h with
  | error hp => exact .error hp
  | @ok x rest hrest hle hlt =>
      by_cases hx : took x
      · exact (hyes x rest hx hrest (hlt hx)).weaken hle fun _ _ => .inl (hlt hx)
      · exact (hno x rest hx hrest hle).weaken hle fun _ hy => .inr hy

/-- A token is taken wherever another one follows. -/
theorem advance_cons {t : Token} {ts : List Token} (hne : ts ≠ []) (h : Closed ts) :
    Outcome (fun _ => True) (t :: ts).length (advance (t :: ts)) := by
  rw [Parse.advance_cons hne]
  rcases h.checked with ⟨hok, hts⟩ | ⟨p, herror, hp⟩
  · rw [hok]
    exact .ok hts (Nat.le_succ _) fun _ => Nat.lt_succ_self _
  · rw [herror]
    exact .error hp

end Outcome

/-! ## Putting readers together -/

theorem ReadsAt.ite {c : Prop} [Decidable c] {p q : Parse α} (hp : ReadsAt k n took p)
    (hq : ReadsAt k n took q) : ReadsAt k n took (if c then p else q) := by
  split
  · exact hp
  · exact hq

/-- What follows starts from fewer tokens where one was taken. -/
theorem ReadsAt.bind {p : Parse α} {f : α → Parse β} (hnm : n ≤ m + 1) (hp : ReadsAt k n took p)
    (hyes : ∀ x, took x → Reads m (f x)) (hno : ∀ x, ¬ took x → ReadsTo n taken (f x)) :
    ReadsAt k n taken (p >>= f) := by
  intro ts hts hk hlen
  refine (hp ts hts hk hlen).bind (fun x rest hx hrest hlt => ?_) fun x rest hx hrest hle => ?_
  · exact hyes x hx _ rest hrest rfl (by omega)
  · exact hno x hx _ rest hrest rfl (by omega)

/-- Once a token was taken, nothing more has to be. -/
theorem ReadsAt.taken_bind {p : Parse α} {f : α → Parse β} (hnm : n ≤ m + 1)
    (hp : ReadsAt k n (fun _ => True) p) (hf : ∀ x, Reads m (f x)) : ReadsAt k n taken (p >>= f) :=
  hp.bind hnm (fun x _ => hf x) fun _ hno => absurd trivial hno

namespace ReadsTo

variable {p q : Parse α} {f : α → Parse β}

theorem readsAt (h : ReadsTo n took p) : ReadsAt k n took p :=
  h k

theorem weaken {took' : α → Prop} (h : ReadsTo n took p) (htook : ∀ x, took' x → took x) :
    ReadsTo n took' p :=
  fun k ts hts hk hlen => (h k ts hts hk hlen).weaken (Nat.le_refl _) fun x hx => .inr (htook x hx)

/-- Whatever a reader says of the tokens that it took, it leaves no more than there were. -/
theorem reads (h : ReadsTo n took p) : Reads n p :=
  h.weaken fun _ => False.elim

theorem of_succ (h : ReadsTo (n + 1) took p) : ReadsTo n took p :=
  fun k ts hts hk hlen => h k ts hts hk (Nat.lt_succ_of_lt hlen)

theorem ite {c : Prop} [Decidable c] (hp : ReadsTo n took p) (hq : ReadsTo n took q) :
    ReadsTo n took (if c then p else q) :=
  fun k => .ite (hp k) (hq k)

/-- Nothing is taken where the value does not say so. -/
theorem leave {x : α} (h : ¬ took x) : ReadsTo n took (Pure.pure x) :=
  fun _ _ hts _ _ => .ok hts (Nat.le_refl _) fun hx => absurd hx h

theorem pure (x : α) : Reads n (Pure.pure x) :=
  leave id

theorem failAt (l : Nat) {c : Problem.Cause} (h : c ≠ .stalled) :
    ReadsTo n took (failAt l c : Parse α) :=
  fun _ _ _ _ _ => .error h

end ReadsTo

theorem Reads.bind {p : Parse α} {f : α → Parse β} (hp : Reads n p)
    (hf : ∀ x, ReadsTo n taken (f x)) : ReadsTo n taken (p >>= f) :=
  fun _ => .bind (Nat.le_succ n) hp.readsAt (fun _ => False.elim) fun x _ => hf x

/-- A check that comes first changes nothing of what follows it. -/
theorem ReadsTo.check {c : Prop} [Decidable c] {p : Parse α} {q : Parse β} (hp : Reads n p)
    (hq : ReadsTo n taken q) : ReadsTo n taken (if c then p >>= fun _ => q else q) :=
  .ite (hp.bind fun _ => hq) hq

namespace Consumes

variable {p : Parse α} {f : α → Parse β}

theorem of_succ (h : Consumes (n + 1) p) : Consumes n p :=
  ReadsTo.of_succ h

theorem bind (hp : Consumes n p) (hf : ∀ x, Reads n (f x)) : ReadsTo n taken (p >>= f) :=
  fun _ => .taken_bind (Nat.le_succ n) hp.readsAt hf

/-- What follows starts from fewer tokens. -/
theorem bind_below (hp : Consumes (n + 1) p) (hf : ∀ x, Reads n (f x)) :
    ReadsTo (n + 1) taken (p >>= f) :=
  fun _ => .taken_bind (Nat.le_refl _) hp.readsAt hf

end Consumes

/-! ## Single tokens -/

section Tokens

variable {f : Token.Kind → Parse α} {w : Want}

namespace ReadsTo

theorem current_bind {f : Token → Parse α} (h : ∀ l k, ReadsAt k n took (f ⟨l, k⟩)) :
    ReadsTo n took (current >>= f) :=
  fun _ ts hts _ hlen => h (ts.headD nothing).line (ts.headD nothing).kind ts hts rfl hlen

theorem kind_bind (h : ∀ k, ReadsAt k n took (f k)) : ReadsTo n took (kind >>= f) := by
  change ReadsTo n took (current >>= fun t => f t.kind)
  exact current_bind fun _ k => h k

end ReadsTo

namespace Reads

theorem current : Reads n current :=
  fun _ _ hts _ _ => .ok hts (Nat.le_refl _) False.elim

theorem kind : Reads n kind :=
  current.bind fun t => .pure t.kind

theorem line : Reads n line :=
  current.bind fun t => .pure t.line

theorem sees (w : Want) : Reads n (sees w) :=
  kind.bind fun k => .pure (w.accepts k)

theorem advance : Reads n advance := by
  intro _ ts hts _ _
  cases ts with
  | nil => exact .ok hts (Nat.le_refl _) False.elim
  | cons t us =>
      by_cases hnil : us = []
      · -- The last token stays.
        subst hnil
        exact .ok hts (Nat.le_refl _) False.elim
      · exact (Outcome.advance_cons hnil (hts.tail hnil)).weaken (Nat.le_refl _) fun _ => False.elim

end Reads

/-- Looking ahead leaves the list alone. -/
theorem Readable.peek {ts : List Token} (h : Readable ts) :
    (∃ k, peek ts = .ok (k, ts)) ∨ ∃ p, peek ts = .error p ∧ p.cause ≠ .stalled := by
  cases ts with
  | nil => exact .inl ⟨_, rfl⟩
  | cons t us =>
      by_cases hnil : us = []
      · subst hnil
        exact .inl ⟨_, rfl⟩
      · rw [peek_cons hnil]
        rcases (h.tail hnil).checked with ⟨hok, -⟩ | ⟨p, herror, hp⟩
        · rw [hok]
          exact .inl ⟨_, rfl⟩
        · rw [herror]
          exact .inr ⟨p, rfl, hp⟩

namespace ReadsAt

/-- A token is taken unless the template ends. -/
theorem advance (hk : k ≠ .eof) : ReadsAt k n (fun _ => True) advance := by
  intro ts hts hkind _
  obtain ⟨t, us, rfl, hne, hus⟩ := hts.exists_cons (hkind ▸ hk)
  exact .advance_cons hne hus

theorem advance_bind {f : Token → Parse α} (hk : k ≠ .eof) (hf : ∀ t, Reads n (f t)) :
    ReadsAt k n took (Parse.advance >>= f) :=
  .taken_bind (Nat.le_succ n) (advance hk) hf

/-- What follows starts from fewer tokens. -/
theorem advance_bind_below {f : Token → Parse α} (hk : k ≠ .eof) (hf : ∀ t, Reads n (f t)) :
    ReadsAt k (n + 1) took (Parse.advance >>= f) :=
  .taken_bind (Nat.le_refl _) (advance hk) hf

theorem peek_bind (h : ∀ k', ReadsAt k n took (f k')) : ReadsAt k n took (Parse.peek >>= f) := by
  intro ts hts hk hlen
  change Outcome took ts.length (Parse.peek ts >>= fun r : Token.Kind × List Token => f r.1 r.2)
  rcases hts.peek with ⟨k', hpeek⟩ | ⟨p, hpeek, hp⟩
  · rw [hpeek]
    exact h k' ts hts hk hlen
  · rw [hpeek]
    exact .error hp

end ReadsAt

/-- What is asked for is never the end of the template. -/
theorem ne_eof_of_accepts (h : w.accepts k = true) : k ≠ .eof := by
  rintro rfl
  cases w <;> cases h

namespace ReadsTo

/-- Where a token is seen, it can be taken. -/
theorem sees_bind {p q : Parse α} (hyes : ∀ k, w.accepts k = true → ReadsAt k n took p)
    (hno : ReadsTo n took q) :
    ReadsTo n took (sees w >>= fun b => if b = true then p else q) := by
  change ReadsTo n took (Parse.kind >>= fun k => if w.accepts k = true then p else q)
  refine kind_bind fun k => ?_
  split
  · next hk => exact hyes k hk
  · exact hno k

theorem fail {c : Problem.Cause} (h : c ≠ .stalled) : ReadsTo n took (fail c : Parse α) :=
  Reads.line.bind fun l => failAt l h

theorem accept? (w : Want) : ReadsTo n (fun t => t.isSome = true) (accept? w) :=
  sees_bind (fun _ hk => .advance_bind (ne_eof_of_accepts hk) fun t => .pure (some t))
    (leave (by simp))

theorem accept (w : Want) : ReadsTo n (fun b => b = true) (accept w) := by
  refine fun k => .bind (Nat.le_succ n) (accept? w).readsAt (fun t _ => .pure _) fun t ht => ?_
  exact leave ht

end ReadsTo

theorem Consumes.expect (w : Want) : Consumes n (expect w) := by
  refine fun k => .bind (Nat.le_succ n) (ReadsTo.accept? w).readsAt (fun t ht => ?_) fun t ht => ?_
  · cases t with
    | none => cases ht
    | some t => exact .pure t
  · cases t with
    | some t => exact absurd rfl ht
    | none =>
        refine Reads.kind.bind fun k => ?_
        split
        · exact .fail (by simp)
        · exact .fail (by simp)

theorem Consumes.expectName : Consumes n expectName :=
  (expect .anyName).bind fun t => .pure (t.line, t.kind.describe)

namespace ReadsTo

/-- What follows a token that is there may start from fewer tokens. -/
theorem accept_bind_of {p q : Parse α} (hnm : n ≤ m + 1) (hyes : Reads m p)
    (hno : ReadsTo n took q) :
    ReadsTo n took (Parse.accept w >>= fun b => if b = true then p else q) := by
  refine fun k => .bind hnm (accept w).readsAt (fun b hb => ?_) fun b hb => ?_
  · rwa [if_pos hb]
  · rwa [if_neg hb]

theorem accept_bind {p q : Parse α} (hyes : Reads n p) (hno : ReadsTo n took q) :
    ReadsTo n took (Parse.accept w >>= fun b => if b = true then p else q) :=
  accept_bind_of (Nat.le_succ n) hyes hno

/-- A separator stands before every part but the first. -/
theorem expectUnless {c : Prop} [Decidable c] (w : Want) {p : Parse α} (h : ReadsTo n took p) :
    ReadsTo n took (if c then p else Parse.expect w >>= fun _ => p) :=
  .ite h ((Consumes.expect w).reads.bind fun _ => h)

end ReadsTo

/-- A token that is there is taken. -/
theorem ReadsAt.accept (hk : w.accepts k = true) : ReadsAt k n (fun _ => True) (accept w) := by
  have htake : ReadsAt k n (fun _ => True) (accept? w) := by
    intro ts hts hkind hlen
    change Outcome _ _ ((if w.accepts (ts.headD nothing).kind then
      Parse.advance >>= fun t => pure (some t) else pure none : Parse (Option Token)) ts)
    rw [hkind, if_pos hk]
    have htaken : ReadsAt k n (fun _ => True) (Parse.advance >>= fun t => pure (some t)) :=
      advance_bind (ne_eof_of_accepts hk) fun t => .pure (some t)
    exact htaken ts hts hkind hlen
  exact htake.taken_bind (Nat.le_succ n) fun _ => .pure _

end Tokens

/-! ## Repetition and recursion -/

/-- The round of a repetition is not its last. -/
def GoesOn : α ⊕ β → Prop
  | .inl _ => True
  | .inr _ => False

section Repetition

variable {round : α → Parse (α ⊕ β)}

theorem ReadsTo.stop (b : β) : ReadsTo n GoesOn (Pure.pure (.inr b) : Parse (α ⊕ β)) :=
  .leave id

/-- The last round takes nothing where the repetition ends in front of a token. -/
theorem ReadsTo.stopAt (w : Want) {b : β} {p : Parse (α ⊕ β)} (h : ReadsTo n GoesOn p) :
    ReadsTo n GoesOn (Parse.sees w >>= fun c => if c = true then Pure.pure (.inr b) else p) :=
  (Reads.sees w).bind fun _ => .ite (.stop b) h

/-- A repetition comes to an end if every round but the last takes a token; and it takes one itself
if its first round does. -/
theorem ReadsAt.iterate_of {took : α ⊕ β → Prop} {a : α} (h : ∀ a, ReadsTo n GoesOn (round a))
    (hfirst : ReadsAt k n took (round a)) (hgo : ∀ b, took (.inl b)) :
    ReadsAt k n (fun y => took (.inr y)) (iterate round a) := by
  intro ts hts hk hlen
  -- The rounds behind the first are those of a repetition from fewer tokens.
  induction hm : ts.length using Nat.strongRecOn generalizing took a k ts with
  | ind m ih =>
      subst hm
      have hround := hfirst ts hts hk hlen
      rw [Parse.iterate]
      revert hround
      generalize round a ts = r
      intro hround
      cases hround with
      | error hp => exact .error hp
      | @ok x rest hrest hle hlt =>
          cases x with
          | inr y => exact .ok hrest hle hlt
          | inl b =>
              have hlt := hlt (hgo b)
              dsimp only
              rw [if_pos hlt]
              have hmore := ih rest.length hlt (h b).readsAt (fun _ => trivial) rest hrest rfl
                (Nat.lt_trans hlt hlen) rfl
              exact hmore.weaken hle fun _ _ => .inl hlt

theorem Reads.iterate (h : ∀ a, ReadsTo n GoesOn (round a)) (a : α) : Reads n (iterate round a) :=
  fun _ => .iterate_of h (h a).readsAt fun _ => trivial

theorem ReadsAt.iterate {a : α} (h : ∀ a, ReadsTo n GoesOn (round a))
    (hfirst : ReadsAt k n (fun _ => True) (round a)) :
    ReadsAt k n (fun _ => True) (iterate round a) :=
  .iterate_of h hfirst fun _ => trivial

end Repetition

/-- A recursion comes to an end if every rule calls its readers with fewer tokens than it was given.
-/
theorem ReadsTo.recursive {rule : (ι → Parse α) → ι → Parse α}
    (h : ∀ n inner, (∀ i, ReadsTo n took (inner i)) → ∀ i, ReadsTo (n + 1) took (rule inner i))
    (i : ι) : ReadsTo n took (recursive rule i) := by
  intro k ts hts hk hlen
  -- A rule is given one token more than the readers that it calls, so the induction is on the
  -- tokens.
  induction hm : ts.length using Nat.strongRecOn generalizing i k ts n with
  | ind m ih =>
      subst hm
      rw [recursive_eq]
      refine h ts.length _ (fun j k us hus hk' hlt => ?_) i k ts hts hk (Nat.lt_succ_self _)
      rw [below, if_pos hlt]
      exact ih us.length hlt j k us hus hk' hlt rfl

/-- What is wrong with a list that the scanner has closed is wrong with the template. -/
theorem Reads.run_ne_stalled {p : Parse α} (h : ∀ n, Reads n p) {ts : List Token} (hts : Closed ts)
    {q : Problem} (hq : run p ts = .error q) : q.cause ≠ .stalled := by
  rcases hts.checked with ⟨hok, hreadable⟩ | ⟨p', herror, hp'⟩
  · have hread := h _ _ ts hreadable rfl (Nat.lt_succ_self ts.length)
    rw [run, hok] at hq
    change (p ts >>= fun r : α × List Token => Except.ok r.1) = .error q at hq
    revert hread hq
    generalize p ts = r
    intro hread hq
    cases hread with
    | ok => cases hq
    | error hcause =>
        cases hq
        exact hcause
  · rw [run, herror] at hq
    cases hq
    exact hp'

end Parse
end Template
end LiquidMarkdown
