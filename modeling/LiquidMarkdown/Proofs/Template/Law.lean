import LiquidMarkdown.Template.Grammar.Parse

/-!
# Laws of readers

A relation between readers that every way of putting readers together keeps holds between every
reader of the grammar and itself.  This file defines:

* `Law` — such a relation, beside one for readers that need a token before the end of the tag, with
  what keeps them;
* `Law.Rel`, `Law.Ahead` — two readers are so related.

What the grammar is made of is kept by what a law says: `Law.Rel.sees`, `Law.Rel.accept`,
`Law.Rel.expect` and the like.
-/

namespace LiquidMarkdown
namespace Template
namespace Parse

/-- Two relations between readers, the second for readers that need a token before the end of the
tag.  Every way of putting readers together keeps them. -/
structure Law where
  rel : {α : Type} → Parse α → Parse α → Prop
  ahead : {α : Type} → Parse α → Parse α → Prop
  rel_pure {α : Type} (x : α) : rel (pure x) (pure x)
  rel_bind {α β : Type} {p q : Parse α} {f g : α → Parse β} :
    rel p q → (∀ x, rel (f x) (g x)) → rel (p >>= f) (q >>= g)
  rel_current : rel current current
  rel_advance : rel advance advance
  /-- Problems of one kind on the same line are told apart by no one. -/
  rel_failAt {α : Type} (n : Nat) {c d : Problem.Cause} :
    c.kind = d.kind → rel (failAt n c : Parse α) (failAt n d)
  rel_iterate {α β : Type} {round round' : α → Parse (α ⊕ β)} :
    (∀ a, rel (round a) (round' a)) → ∀ a, rel (iterate round a) (iterate round' a)
  rel_recursive {ι α : Type} {S : ι → ι → Prop} {rule : (ι → Parse α) → ι → Parse α} :
    (∀ inner inner', (∀ j j', S j j' → rel (inner j) (inner' j')) →
      ∀ i i', S i i' → rel (rule inner i) (rule inner' i')) →
    ∀ i i', S i i' → rel (recursive rule i) (recursive rule i')
  ahead_of_rel {α : Type} {p q : Parse α} : rel p q → ahead p q
  ahead_peek : ahead peek peek
  ahead_bind {α β : Type} {p q : Parse α} {f g : α → Parse β} :
    ahead p q → (∀ x, rel (f x) (g x)) → ahead (p >>= f) (q >>= g)
  /-- A token of any other kind stands before the end of the tag. -/
  rel_kind_bind {α : Type} {f g : Token.Kind → Parse α} : rel (f .blockEnd) (g .blockEnd) →
    (∀ k, k ≠ .blockEnd → ahead (f k) (g k)) → rel (kind >>= f) (kind >>= g)

namespace Law

variable {L : Law} {α β ι : Type}

/-- Two readers are related by the law. -/
def Rel (L : Law) (p q : Parse α) : Prop :=
  L.rel p q

/-- Two readers that need a token before the end of the tag are related by the law. -/
def Ahead (L : Law) (p q : Parse α) : Prop :=
  L.ahead p q

namespace Ahead

theorem ite {c : Prop} [Decidable c] {p q p' q' : Parse α} (h : L.Ahead p q) (h' : L.Ahead p' q') :
    L.Ahead (if c then p else p') (if c then q else q') := by
  split
  · exact h
  · exact h'

theorem peek : L.Ahead peek peek :=
  L.ahead_peek

theorem bind {p q : Parse α} {f g : α → Parse β} (hp : L.Ahead p q)
    (hf : ∀ x, L.Rel (f x) (g x)) : L.Ahead (p >>= f) (q >>= g) :=
  L.ahead_bind hp hf

end Ahead

namespace Rel

theorem ahead {p q : Parse α} (h : L.Rel p q) : L.Ahead p q :=
  L.ahead_of_rel h

theorem pure (x : α) : L.Rel (Pure.pure x) (Pure.pure x) :=
  L.rel_pure x

theorem bind {p q : Parse α} {f g : α → Parse β} (hp : L.Rel p q) (hf : ∀ x, L.Rel (f x) (g x)) :
    L.Rel (p >>= f) (q >>= g) :=
  L.rel_bind hp hf

theorem ite {c : Prop} [Decidable c] {p q p' q' : Parse α} (h : L.Rel p q) (h' : L.Rel p' q') :
    L.Rel (if c then p else p') (if c then q else q') := by
  split
  · exact h
  · exact h'

theorem iterate {round round' : α → Parse (α ⊕ β)} (h : ∀ a, L.Rel (round a) (round' a)) (a : α) :
    L.Rel (iterate round a) (iterate round' a) :=
  L.rel_iterate h a

theorem recursive {S : ι → ι → Prop} {rule : (ι → Parse α) → ι → Parse α}
    (h : ∀ inner inner', (∀ j j', S j j' → L.Rel (inner j) (inner' j')) →
      ∀ i i', S i i' → L.Rel (rule inner i) (rule inner' i')) {i i' : ι} (hi : S i i') :
    L.Rel (recursive rule i) (recursive rule i') :=
  L.rel_recursive h i i' hi

/-! ### Single tokens -/

theorem current : L.Rel current current :=
  L.rel_current

theorem advance : L.Rel advance advance :=
  L.rel_advance

theorem failAt (n : Nat) {c d : Problem.Cause} (h : c.kind = d.kind) :
    L.Rel (failAt n c : Parse α) (failAt n d) :=
  L.rel_failAt n h

theorem kind : L.Rel kind kind :=
  current.bind fun t => pure t.kind

theorem line : L.Rel line line :=
  current.bind fun t => pure t.line

theorem fail {c d : Problem.Cause} (h : c.kind = d.kind) : L.Rel (fail c : Parse α) (fail d) :=
  line.bind fun n => failAt n h

theorem sees (w : Want) : L.Rel (sees w) (sees w) :=
  kind.bind fun k => pure (w.accepts k)

theorem accept? (w : Want) : L.Rel (accept? w) (accept? w) :=
  (sees w).bind fun _ => .ite (advance.bind fun t => pure (some t)) (pure none)

theorem accept (w : Want) : L.Rel (accept w) (accept w) :=
  (accept? w).bind fun t => pure t.isSome

theorem expect (w : Want) : L.Rel (expect w) (expect w) := by
  refine (accept? w).bind fun t => ?_
  cases t with
  | some t => exact pure t
  | none =>
      refine kind.bind fun k => ?_
      split
      · exact fail rfl
      · exact fail rfl

theorem expectName : L.Rel expectName expectName :=
  (expect .anyName).bind fun t => pure (t.line, t.kind.describe)

/-- A separator stands before every part but the first. -/
theorem expectUnless {c : Prop} [Decidable c] (w : Want) {p q : Parse α} (h : L.Rel p q) :
    L.Rel (if c then p else Parse.expect w >>= fun _ => p)
      (if c then q else Parse.expect w >>= fun _ => q) :=
  .ite h ((expect w).bind fun _ => h)

/-! ### Looking ahead -/

theorem kind_bind {f g : Token.Kind → Parse α} (hend : L.Rel (f .blockEnd) (g .blockEnd))
    (hf : ∀ k, k ≠ .blockEnd → L.Ahead (f k) (g k)) :
    L.Rel (Parse.kind >>= f) (Parse.kind >>= g) :=
  L.rel_kind_bind hend hf

/-- A token that is asked for stands before the end of the tag. -/
theorem sees_bind {w : Want} {f g : Bool → Parse α} (hw : w ≠ .blockEnd)
    (htrue : L.Ahead (f true) (g true)) (hfalse : L.Rel (f false) (g false)) :
    L.Rel (Parse.sees w >>= f) (Parse.sees w >>= g) := by
  have hend : w.accepts .blockEnd = false := by
    cases w <;> first | rfl | exact absurd rfl hw
  have hsees : ∀ h : Bool → Parse α,
      (Parse.sees w >>= h) = Parse.kind >>= fun k => h (w.accepts k) := fun h => rfl
  rw [hsees, hsees]
  refine kind_bind ?_ fun k _ => ?_
  · rw [hend]
    exact hfalse
  · cases w.accepts k with
    | true => exact htrue
    | false => exact hfalse.ahead

end Rel
end Law

end Parse
end Template
end LiquidMarkdown
