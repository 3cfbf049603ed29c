import LiquidMarkdown.Proofs.Template.LawStatement
import LiquidMarkdown.Proofs.Template.Lexing
import LiquidMarkdown.Proofs.Template.Local

/-!
# Readers look into no fault

What the scanner could not read shows in a problem, and nowhere else.  The offset where it stands
shows in the wording of that problem only.  This file defines:

* `Problem.Alike`, `Token.Alike` — problems of one kind on one line, and tokens that are the same or
  stand for such problems;
* `Parse.SameTokens` — lists of such tokens, the first of which can be read;
* `Parse.SameOutcome` — two readers come to related values with such lists left, or to problems of
  one kind;
* `Parse.Agree` — they do so wherever they start with such lists;
* `Cursor.Alike` — places with the same text ahead, at any offsets.

That readers agree is a law of readers (`agreeLaw`), so that each reader of the grammar agrees with
itself.  The scan gives such lists from places at different offsets (`Cursor.Alike.scan`).
-/

namespace LiquidMarkdown
namespace Template

/-! ## Problems and tokens -/

/-- Problems of one kind on one line. -/
structure Problem.Alike (p q : Problem) : Prop where
  line : p.line = q.line
  kind : p.cause.kind = q.cause.kind

/-- The same token, or faults of one kind on one line. -/
inductive Token.Alike : Token → Token → Prop
  | refl (t : Token) : Alike t t
  | fault {n : Nat} {c d : Problem.Cause} : c.kind = d.kind → Alike ⟨n, .fault c⟩ ⟨n, .fault d⟩

theorem Token.Alike.forall₂_refl (ts : List Token) : List.Forall₂ Token.Alike ts ts :=
  List.forall₂_same.2 fun t _ => .refl t

namespace Parse

variable {α β α' β' ι : Type}

/-- Lists of the same tokens up to their faults, none of which comes first. -/
structure SameTokens (ts us : List Token) : Prop where
  alike : List.Forall₂ Token.Alike ts us
  readable : checked ts = .ok ts

namespace SameTokens

variable {ts us : List Token}

/-- What can be read is the same, and whether anything follows it. -/
theorem shape (h : SameTokens ts us) : ts = [] ∧ us = [] ∨ (∃ t, ts = [t] ∧ us = [t]) ∨
    ∃ t vs ws, ts = t :: vs ∧ us = t :: ws ∧ vs ≠ [] ∧ ws ≠ [] ∧
      List.Forall₂ Token.Alike vs ws := by
  rcases h with ⟨halike, hreadable⟩
  cases halike with
  | nil => exact .inl ⟨rfl, rfl⟩
  | @cons t _ _ _ ht hts =>
      cases ht with
      | fault => cases hreadable
      | refl =>
          cases hts with
          | nil => exact .inr (.inl ⟨t, rfl, rfl⟩)
          | cons hu hus =>
              exact .inr (.inr ⟨t, _, _, rfl, rfl, List.cons_ne_nil _ _, List.cons_ne_nil _ _,
                .cons hu hus⟩)

theorem headD_eq (h : SameTokens ts us) : ts.headD nothing = us.headD nothing := by
  rcases h.shape with ⟨rfl, rfl⟩ | ⟨t, rfl, rfl⟩ | ⟨t, vs, ws, rfl, rfl, -⟩ <;> rfl

theorem length_eq (h : SameTokens ts us) : ts.length = us.length :=
  h.alike.length_eq

end SameTokens

/-- Lists of alike tokens can both be read, or begin with faults of one kind. -/
theorem checked_alike {ts us : List Token} (h : List.Forall₂ Token.Alike ts us) :
    SameTokens ts us ∧ checked ts = .ok ts ∧ checked us = .ok us ∨
      ∃ p q, checked ts = .error p ∧ checked us = .error q ∧ p.Alike q := by
  cases h with
  | nil => exact .inl ⟨⟨.nil, rfl⟩, rfl, rfl⟩
  | @cons t u ts us ht hts =>
      cases ht with
      | fault hkind => exact .inr ⟨_, _, rfl, rfl, rfl, hkind⟩
      | refl =>
          rcases t with ⟨n, k⟩
          cases k with
          | fault c => exact .inr ⟨_, _, rfl, rfl, rfl, rfl⟩
          | _ => exact .inl ⟨⟨.cons (.refl _) hts, rfl⟩, rfl, rfl⟩

/-! ## The same outcome -/

/-- Both readers come to an end, with related values and the same tokens left, or both stop, with
problems of one kind on one line. -/
inductive SameOutcome (V : α → β → Prop) :
    Except Problem (α × List Token) → Except Problem (β × List Token) → Prop
  | ok {x : α} {y : β} {ts us : List Token} :
      V x y → SameTokens ts us → SameOutcome V (.ok (x, ts)) (.ok (y, us))
  | error {p q : Problem} : p.Alike q → SameOutcome V (.error p) (.error q)

variable {V : α → β → Prop} {W : α' → β' → Prop}

/-- Wherever the readers start with the same tokens, they come to outcomes of one kind. -/
def Agree (V : α → β → Prop) (p : Parse α) (q : Parse β) : Prop :=
  ∀ ts us, SameTokens ts us → SameOutcome V (p ts) (q us)

/-- What follows two readers agrees if what they come to does. -/
theorem SameOutcome.bind {x : Except Problem (α × List Token)} {y : Except Problem (β × List Token)}
    {f : α → Parse α'} {g : β → Parse β'} (h : SameOutcome V x y)
    (hf : ∀ a b, V a b → Agree W (f a) (g b)) :
    SameOutcome W (x >>= fun r => f r.1 r.2) (y >>= fun r => g r.1 r.2) := by
  cases h with
  | ok hab hrest => exact hf _ _ hab _ _ hrest
  | error hpq => exact .error hpq

theorem SameOutcome.mono {V' : α → β → Prop} {x : Except Problem (α × List Token)}
    {y : Except Problem (β × List Token)} (h : SameOutcome V x y) (hV : ∀ a b, V a b → V' a b) :
    SameOutcome V' x y := by
  cases h with
  | ok hab hrest => exact .ok (hV _ _ hab) hrest
  | error hpq => exact .error hpq

namespace Agree

theorem pure {x : α} {y : β} (h : V x y) : Agree V (Pure.pure x) (Pure.pure y) :=
  fun _ _ hsame => .ok h hsame

theorem failAt (n : Nat) {c d : Problem.Cause} (h : c.kind = d.kind) :
    Agree V (failAt n c) (failAt n d) :=
  fun _ _ _ => .error ⟨rfl, h⟩

theorem mono {V' : α → β → Prop} {p : Parse α} {q : Parse β} (h : Agree V p q)
    (hV : ∀ x y, V x y → V' x y) : Agree V' p q :=
  fun ts us hsame => (h ts us hsame).mono hV

theorem bind {p : Parse α} {q : Parse β} {f : α → Parse α'} {g : β → Parse β'} (hp : Agree V p q)
    (hf : ∀ x y, V x y → Agree W (f x) (g y)) : Agree W (p >>= f) (q >>= g) :=
  fun ts us hsame => (hp ts us hsame).bind hf

theorem bind_eq {p q : Parse α} {f : α → Parse α'} {g : α → Parse β'} (hp : Agree Eq p q)
    (hf : ∀ x, Agree W (f x) (g x)) : Agree W (p >>= f) (q >>= g) :=
  hp.bind fun x _ hxy => hxy ▸ hf x

theorem current : Agree Eq current current :=
  fun _ _ hsame => .ok hsame.headD_eq hsame

theorem advance : Agree Eq advance advance := by
  intro ts us hsame
  rcases hsame.shape with ⟨rfl, rfl⟩ | ⟨t, rfl, rfl⟩ | ⟨t, vs, ws, rfl, rfl, hvs, hws, halike⟩
  · exact .ok rfl hsame
  · exact .ok rfl hsame
  · rw [advance_cons hvs, advance_cons hws]
    rcases checked_alike halike with ⟨hrest, hv, hw⟩ | ⟨p, q, hv, hw, hpq⟩
    · rw [hv, hw]
      exact .ok rfl hrest
    · rw [hv, hw]
      exact .error hpq

theorem peek : Agree Eq peek peek := by
  intro ts us hsame
  rcases hsame.shape with ⟨rfl, rfl⟩ | ⟨t, rfl, rfl⟩ | ⟨t, vs, ws, rfl, rfl, hvs, hws, halike⟩
  · exact .ok rfl hsame
  · exact .ok rfl hsame
  · rw [peek_cons hvs, peek_cons hws]
    rcases checked_alike halike with ⟨hrest, hv, hw⟩ | ⟨p, q, hv, hw, hpq⟩
    · rw [hv, hw]
      exact .ok (congrArg Token.kind hrest.headD_eq) hsame
    · rw [hv, hw]
      exact .error hpq

end Agree

/-! ## Repetition and recursion -/

/-- A repetition goes on from a round with the outcome of the other, and comes to the outcome of the
other. -/
theorem SameOutcome.iterate {round : α → Parse (α ⊕ α')} {round' : β → Parse (β ⊕ β')}
    (h : ∀ a b, V a b → Agree (Sum.LiftRel V W) (round a) (round' b)) {a : α} {b : β}
    {ts us : List Token} (hfirst : SameOutcome (Sum.LiftRel V W) (round a ts) (round' b us))
    (hlen : ts.length = us.length) : SameOutcome W (iterate round a ts) (iterate round' b us) := by
  -- Every round takes a token, so the induction is on the number of tokens that are left.
  induction hn : ts.length using Nat.strongRecOn generalizing a b ts us with
  | ind n ih =>
      subst hn
      rw [Parse.iterate, Parse.iterate]
      revert hfirst
      generalize round a ts = x
      generalize round' b us = y
      intro hfirst
      cases hfirst with
      | error hpq => exact .error hpq
      | @ok x y left left' hxy hrest =>
          cases hxy with
          | inr hw => exact .ok hw hrest
          | @inl a b hv =>
              dsimp only
              rw [← hrest.length_eq, ← hlen]
              split
              · next hlt => exact ih _ hlt (h a b hv _ _ hrest) hrest.length_eq rfl
              · exact .error ⟨congrArg Token.line hrest.headD_eq, rfl⟩

theorem Agree.iterate {round : α → Parse (α ⊕ α')} {round' : β → Parse (β ⊕ β')}
    (h : ∀ a b, V a b → Agree (Sum.LiftRel V W) (round a) (round' b)) {a : α} {b : β}
    (hab : V a b) :
    Agree W (iterate round a) (iterate round' b) :=
  fun ts us hsame => .iterate h (h a b hab ts us hsame) hsame.length_eq

theorem Agree.below {S : ι → ι → Prop} {rule : (ι → Parse α) → ι → Parse α}
    (h : ∀ inner inner', (∀ j j', S j j' → Agree Eq (inner j) (inner' j')) →
      ∀ i i', S i i' → Agree Eq (rule inner i) (rule inner' i')) (n : Nat) {i i' : ι}
        (hi : S i i') :
    Agree Eq (below rule n i) (below rule n i') := by
  induction n using Nat.strongRecOn generalizing i i' with
  | ind n ih =>
      intro ts us hsame
      rw [Parse.below, Parse.below, recursive_eq, recursive_eq, ← hsame.length_eq]
      split
      · next hlt => exact h _ _ (fun j j' hj => ih ts.length hlt hj) i i' hi ts us hsame
      · exact .error ⟨congrArg Token.line hsame.headD_eq, rfl⟩

/-- Readers look into no fault. -/
def agreeLaw : Law where
  rel := Agree Eq
  ahead := Agree Eq
  rel_pure _ := .pure rfl
  rel_bind := .bind_eq
  rel_current := .current
  rel_advance := .advance
  rel_failAt := .failAt
  rel_iterate h a := by
    refine .iterate (V := Eq) (fun a b hab => hab ▸ (h a).mono fun x y hxy => ?_) rfl
    subst hxy
    cases x with
    | inl a => exact .inl rfl
    | inr b => exact .inr rfl
  rel_recursive h i i' hi := by
    intro ts us hsame
    rw [recursive_eq, recursive_eq, ← hsame.length_eq]
    exact h _ _ (fun j j' hj => .below h _ hj) i i' hi ts us hsame
  ahead_of_rel h := h
  ahead_peek := .peek
  ahead_bind := .bind_eq
  rel_kind_bind {_ f g} hend hf := by
    refine .bind_eq (.bind_eq .current fun _ => .pure rfl) fun k => ?_
    by_cases hk : k = .blockEnd
    · exact hk ▸ hend
    · exact hf k hk

end Parse

/-! ## Offsets -/

namespace Cursor

variable {c d : Cursor}

/-- Places on the same line with the same text ahead, both behind a point or neither. -/
structure Alike (c d : Cursor) : Prop where
  line : c.line = d.line
  rest : c.rest = d.rest
  point : c.previous = '.' ↔ d.previous = '.'

namespace Alike

theorem moveTo (h : c.Alike d) (t : Text) : (c.moveTo t).Alike (d.moveTo t) := by
  unfold Cursor.moveTo
  rw [h.line, h.rest]
  refine ⟨rfl, rfl, ?_⟩
  dsimp only
  rw [List.getLastD_eq_getLast?, List.getLastD_eq_getLast?]
  cases (d.rest.take (d.rest.length - t.length)).getLast? with
  | none => exact h.point
  | some x => exact Iff.rfl

/-- A lexeme is the same, but for the offset of a stray character. -/
theorem lexeme (h : c.Alike d) (brackets : List Char) :
    c.lexeme brackets = d.lexeme brackets ∨ ∃ x m n,
      c.lexeme brackets = (.fault (.strayCharacter x m), brackets, []) ∧
        d.lexeme brackets = (.fault (.strayCharacter x n), brackets, []) := by
  have hliteral : literal? c.previous d.rest = literal? d.previous d.rest := by
    rw [← literal?_previous, ← literal?_previous d.previous]
    simp only [h.point]
  rw [lexeme_eq, lexeme_eq, h.rest, hliteral]
  cases literal? d.previous d.rest with
  | some r => exact .inl rfl
  | none =>
      cases Operator.read? d.rest with
      | some r => exact .inl rfl
      | none => exact .inr ⟨_, _, _, rfl, rfl⟩

/-- So is a step of the scan. -/
theorem step (h : c.Alike d) (mode : Mode) : Cursor.step mode c = Cursor.step mode d ∨
    ∃ n x i j, Cursor.step mode c = .last [⟨n, .fault (.strayCharacter x i)⟩] ∧
      Cursor.step mode d = .last [⟨n, .fault (.strayCharacter x j)⟩] := by
  -- Only a lexeme depends on more than the rest and the line: a fault tells its place.
  cases mode with
  | text =>
      left
      rw [Cursor.step, Cursor.step, textStep, textStep, h.rest, h.line]
  | comment =>
      left
      rw [Cursor.step, Cursor.step, commentStep, commentStep, h.rest, h.line]
  | raw =>
      left
      rw [Cursor.step, Cursor.step, rawStep, rawStep, h.rest, h.line]
  | inside delimiter brackets =>
      rw [Cursor.step, Cursor.step, insideStep, insideStep, h.rest, h.line]
      rcases h.lexeme brackets with hsame | ⟨x, i, j, hc, hd⟩
      · rw [hsame]
        exact .inl rfl
      · rw [hc, hd]
        split
        · exact .inl rfl
        · split
          · exact .inl rfl
          · split
            · exact .inl rfl
            · exact .inr ⟨_, _, _, _, rfl, rfl⟩

/-- The tokens are the same, up to their faults. -/
theorem scan (h : c.Alike d) (mode : Mode) :
    List.Forall₂ Token.Alike (c.scan mode) (d.scan mode) := by
  induction mode, c using scan_induction generalizing d with
  | h mode c ih =>
      rw [scan_eq, scan_eq mode d]
      rcases h.step mode with hsame | ⟨n, x, i, j, hc, hd⟩
      · rw [← hsame]
        cases hstep : Cursor.step mode c with
        | last ts => exact Token.Alike.forall₂_refl ts
        | next ts mode' rest =>
            exact List.rel_append (Token.Alike.forall₂_refl ts)
              (ih ts mode' rest hstep (h.moveTo rest))
      · rw [hc, hd]
        exact .cons (.fault rfl) .nil

end Alike
end Cursor

/-! ## The end of a token list -/

theorem closeTokens_cons_of_ne_nil (t : Token) {ts : List Token} (h : ts ≠ []) :
    closeTokens (t :: ts) = t :: closeTokens ts := by
  obtain ⟨u, us, rfl⟩ := List.exists_cons_of_ne_nil h
  unfold closeTokens
  rw [List.getLast?_cons_cons]
  split
  · rfl
  · rw [List.cons_append]
  · next hlast => cases List.getLast?_eq_none_iff.1 hlast

/-- The end of the template stands on the first line if nothing stands before it. -/
theorem closeTokens_cons_line_one {k : Token.Kind} (hk : Cursor.isFault k = false)
    (ts : List Token) :
    closeTokens (⟨1, k⟩ :: ts) = ⟨1, k⟩ :: closeTokens ts := by
  by_cases hnil : ts = []
  · subst hnil
    cases k <;> first | rfl | cases hk
  · exact closeTokens_cons_of_ne_nil _ hnil

theorem closeTokens_alike {ts us : List Token} (h : List.Forall₂ Token.Alike ts us) :
    List.Forall₂ Token.Alike (closeTokens ts) (closeTokens us) := by
  induction h with
  | nil => exact Token.Alike.forall₂_refl _
  | @cons t u ts us ht hts ih =>
      by_cases hnil : ts = []
      · subst hnil
        cases hts
        cases ht with
        | refl => exact Token.Alike.forall₂_refl _
        | fault hkind => exact .cons (.fault hkind) .nil
      · have hnil' : us ≠ [] := by
          rintro rfl
          cases hts
          exact hnil rfl
        rw [closeTokens_cons_of_ne_nil t hnil, closeTokens_cons_of_ne_nil u hnil']
        exact .cons ht ih

theorem closeTokens_ne_nil (ts : List Token) : closeTokens ts ≠ [] := by
  unfold closeTokens
  split
  · next hlast =>
      rintro rfl
      cases hlast
  · simp
  · simp

end Template
end LiquidMarkdown
