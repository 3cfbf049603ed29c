import LiquidMarkdown.Proofs.Template.LawExpression
import LiquidMarkdown.Template.Grammar.Statement
import Mathlib.Data.List.Forall2

/-!
# Laws of statements

Each statement is related to itself by a law if the readers for bodies are, and so are the contents
of a body.  What is open around a statement shows in messages only, so that a statement is read
alike in two contexts: `rel_statement`, `rel_bodyRule`.  This file defines:

* `partialArguments`, `partialKeywords` — the parts of a partial template behind its word;
* `SameEnds` — bodies that are closed by the same words.
-/

namespace LiquidMarkdown
namespace Template
namespace Grammar

open Parse Law

variable {L : Law}

/-! ## Liquid tags -/

theorem rel_assignment : L.Rel assignment assignment :=
  Rel.advance.bind fun _ => rel_targetName.bind fun _ => (Rel.expect _).bind fun _ =>
    rel_expression.bind fun _ => .pure _

theorem rel_counter : L.Rel counter counter :=
  Rel.advance.bind fun _ => Rel.expectName.bind fun _ => .pure _

theorem rel_echo : L.Rel echo echo :=
  Rel.advance.bind fun _ => rel_expression.bind fun _ => .pure _

theorem rel_cycle : L.Rel cycle cycle := by
  have hrest (first : Located) := (Rel.iterate (L := L) (fun (values : List Expr) =>
      (Rel.accept (.operator .comma)).bind fun b => .ite (c := b = true)
        (rel_expression.bind fun e => .pure (.inl (values ++ [e.expr])))
        (.pure (.inr values))) [first.expr]).bind fun values =>
    .pure (Stmt.output [.tuple values .load])
  exact Rel.advance.bind fun _ => rel_expression.bind fun group => (Rel.accept _).bind fun _ =>
    .ite (rel_expression.bind hrest) ((Rel.pure group).bind hrest)

theorem rel_takesObject : L.Rel takesObject takesObject :=
  (Rel.accept _).bind fun _ => .ite (.pure _) (.accept _)

theorem rel_partialObject : L.Rel partialObject partialObject :=
  rel_takesObject.bind fun _ => .ite
    (rel_expression.bind fun _ => (Rel.accept _).bind fun _ =>
      .ite (Rel.expectName.bind fun _ => .pure _) (.pure _))
    (.pure _)

/-- The names that a partial template is given, behind those that it has. -/
def partialKeywords : List (Text × Expr) → Parse (List (Text × Expr)) :=
  iterate fun keywords => do
    if ← accept (.operator .comma) then
      let (_, key) ← expectName
      let _ ← expect (.operator .colon)
      let value ← expression
      return .inl (keywords ++ [(key, value.expr)])
    else return .inr keywords

theorem rel_partialKeywords (keywords : List (Text × Expr)) :
    L.Rel (partialKeywords keywords) (partialKeywords keywords) :=
  .iterate (fun _ => (Rel.accept _).bind fun _ => .ite
    (Rel.expectName.bind fun _ => (Rel.expect _).bind fun _ =>
      rel_expression.bind fun _ => .pure _)
    (.pure _)) keywords

/-- What stands behind the word of a partial template. -/
def partialArguments (function : Text) : Parse Stmt := do
  let template ← expression
  let keywords ← partialKeywords (← partialObject)
  return callOf function [template.expr] keywords

theorem partialCall_eq (function : Text) :
    partialCall function = advance >>= fun _ => partialArguments function :=
  rfl

theorem rel_partialCall (function : Text) :
    L.Rel (partialCall function) (partialCall function) := by
  rw [partialCall_eq]
  exact Rel.advance.bind fun _ => rel_expression.bind fun _ => rel_partialObject.bind fun _ =>
    (rel_partialKeywords _).bind fun _ => .pure _

theorem rel_layout : L.Rel layout layout :=
  Rel.advance.bind fun _ => rel_expression.bind fun _ => .pure _

/-! ## Statements without a body -/

theorem rel_parameters : L.Rel parameters parameters := by
  refine (Rel.expect _).bind fun _ => (Rel.iterate (fun _ => ?round) _).bind fun _ =>
    (Rel.expect _).bind fun _ => .pure _
  case round =>
    exact (Rel.sees _).bind fun _ => .ite (.pure _) <| .expectUnless _ <|
      rel_targetName.bind fun _ => (Rel.accept _).bind fun _ =>
        .ite (rel_expression.bind fun _ => .pure _) <| .ite (.pure _) (.fail rfl)

theorem rel_print : L.Rel print print := by
  refine Rel.advance.bind fun _ => (Rel.iterate (fun _ => ?round) _).bind fun _ => .pure _
  case round =>
    exact (Rel.sees _).bind fun _ => .ite (.pure _) <| .expectUnless _ <|
      rel_expression.bind fun _ => .pure _

theorem rel_evaluate : L.Rel evaluate evaluate :=
  Rel.advance.bind fun _ => rel_tuple.bind fun _ => .pure _

theorem rel_inherit : L.Rel inherit inherit :=
  Rel.advance.bind fun _ => rel_expression.bind fun _ => .pure _

theorem rel_context? : L.Rel context? context? := by
  have hsaid (t : Text) := Ahead.peek (L := L).bind fun k =>
    .ite (c := (Want.word "context").accepts k = true)
      (Rel.advance.bind fun _ => Rel.advance.bind fun _ =>
        .pure (some (decide (t = ("with" : Text))))) (.pure none)
  refine .kind_bind (.pure none) fun k _ => ?_
  dsimp only
  split
  · exact .ite (hsaid _) (Rel.pure none).ahead
  · exact .ite (hsaid _) (Rel.pure none).ahead
  · exact (Rel.pure none).ahead

theorem rel_nameContext? : L.Rel nameContext? nameContext? :=
  (Rel.sees _).bind fun _ => .ite rel_context? (.pure _)

theorem rel_ignoreMissing : L.Rel ignoreMissing ignoreMissing :=
  .sees_bind (by simp)
    (Ahead.peek.bind fun _ => .ite
      (Rel.advance.bind fun _ => Rel.advance.bind fun _ => .pure _) (.pure _))
    (.pure false)

theorem rel_insert : L.Rel insert insert :=
  Rel.advance.bind fun _ => rel_expression.bind fun _ => rel_ignoreMissing.bind fun _ =>
    rel_nameContext?.bind fun _ => .pure _

theorem rel_load : L.Rel load load :=
  Rel.advance.bind fun _ => rel_expression.bind fun _ => (Rel.expect _).bind fun _ =>
    rel_targetName.bind fun _ => rel_nameContext?.bind fun _ => .pure _

theorem rel_loadedName : L.Rel loadedName loadedName := by
  have hrest (name : Text) := (Rel.accept (L := L) (.word "as")).bind fun b => .ite (c := b = true)
    (rel_targetName.bind fun given => .pure (name, some given.2)) (.pure (name, none))
  exact rel_targetName.bind fun _ => .ite (Rel.bind (.failAt _ rfl) fun _ => hrest _) (hrest _)

theorem rel_loadNames : L.Rel loadNames loadNames := by
  refine Rel.advance.bind fun _ => rel_expression.bind fun _ => (Rel.expect _).bind fun _ =>
    (Rel.iterate (fun names => ?round) _).bind fun _ => .pure _
  refine .expectUnless _ <| (Rel.sees _).bind fun _ => .expectUnless _ <|
    rel_context?.bind fun said => ?_
  cases said with
  | some b => exact .pure _
  | none =>
      refine rel_loadedName.bind fun name => rel_context?.bind fun said => ?_
      cases said with
      | some b => exact .pure _
      | none => exact (Rel.sees _).bind fun _ => .ite (.pure _) (.pure _)

theorem rel_lone (s : Stmt) : L.Rel (lone s) (lone s) :=
  Rel.advance.bind fun _ => .pure s

/-! ## Statements with a body -/

section Bodies

variable {body body' : Body}

theorem rel_lineTags (h : ∀ ends take, L.Rel (body ends take) (body' ends take)) :
    L.Rel (lineTags body) (lineTags body') :=
  Rel.advance.bind fun _ => (h _ _).bind fun _ => .pure _

theorem rel_loop (h : ∀ ends take, L.Rel (body ends take) (body' ends take)) :
    L.Rel (loop body) (loop body') := by
  have hrest (target iterable : Expr) (test : Option Expr) :=
    (Rel.accept (L := L) (.word "recursive")).bind fun isRecursive =>
    (h ["endfor", "else"] false).bind fun inner => Rel.advance.bind fun closing =>
    .ite (c := (Want.word "endfor").accepts closing.kind = true)
      ((Rel.pure []).bind fun alternative =>
        .pure (Stmt.loop target iterable inner alternative test isRecursive))
      ((h ["endfor"] true).bind fun alternative =>
        .pure (Stmt.loop target iterable inner alternative test isRecursive))
  exact Rel.advance.bind fun _ => (rel_target false).bind fun _ => (Rel.expect _).bind fun _ =>
    (rel_tupleOf rel_disjunction false).bind fun _ => (Rel.accept _).bind fun _ => .ite
      (rel_expression.bind fun _ => (Rel.pure _).bind fun _ => hrest _ _ _)
      ((Rel.pure _).bind fun _ => hrest _ _ _)

theorem rel_condition (h : ∀ ends take, L.Rel (body ends take) (body' ends take)) :
    L.Rel (condition body) (condition body') :=
  (rel_tupleOf rel_disjunction false).bind fun _ => (h _ _).bind fun _ => .pure _

theorem rel_branch (h : ∀ ends take, L.Rel (body ends take) (body' ends take)) :
    L.Rel (branch body) (branch body') :=
  Rel.advance.bind fun _ => (rel_condition h).bind fun _ =>
    .iterate (fun _ => Rel.advance.bind fun _ => .ite
      ((rel_condition h).bind fun _ => .pure _)
      (.ite ((h _ _).bind fun _ => .pure _) (.pure _))) _

theorem rel_assignTo (h : ∀ ends take, L.Rel (body ends take) (body' ends take)) :
    L.Rel (assignTo body) (assignTo body') :=
  Rel.advance.bind fun _ => (rel_target true).bind fun _ => (Rel.accept _).bind fun _ => .ite
    (rel_tuple.bind fun _ => .pure _)
    ((rel_filters rel_within none).bind fun _ => (h _ _).bind fun _ => .pure _)

theorem rel_bind (h : ∀ ends take, L.Rel (body ends take) (body' ends take)) :
    L.Rel (bind body) (bind body') := by
  refine Rel.advance.bind fun _ => (Rel.iterate (fun _ => ?round) _).bind fun _ =>
    (h _ _).bind fun _ => .pure _
  case round =>
    exact (Rel.sees _).bind fun _ => .ite (.pure _) <| .expectUnless _ <|
      (rel_target false).bind fun _ => (Rel.expect _).bind fun _ =>
        rel_expression.bind fun _ => .pure _

theorem rel_escaping (h : ∀ ends take, L.Rel (body ends take) (body' ends take)) :
    L.Rel (escaping body) (escaping body') :=
  Rel.advance.bind fun _ => rel_expression.bind fun _ => (h _ _).bind fun _ => .pure _

theorem rel_block (h : ∀ ends take, L.Rel (body ends take) (body' ends take)) :
    L.Rel (block body) (block body') := by
  refine Rel.advance.bind fun _ => Rel.expectName.bind fun name =>
    (Rel.accept _).bind fun isScoped => (Rel.accept _).bind fun isRequired =>
    (Rel.sees _).bind fun _ => ?_
  have hend (inner : List Stmt) := (Rel.accept (L := L) (.word name.2)).bind fun _ =>
    .pure (Stmt.block name.2 inner isScoped isRequired)
  have hrest := (h ["endblock"] true).bind fun inner =>
    .ite (c := (isRequired && !inner.all isBlankOutput) = true)
      (Rel.bind (.fail (c := .requiredBlockContent) rfl) fun _ : Unit => hend inner)
      (hend inner)
  exact .ite (Rel.bind (.fail rfl) fun _ => hrest) hrest

theorem rel_define (h : ∀ ends take, L.Rel (body ends take) (body' ends take)) :
    L.Rel (define body) (define body') :=
  Rel.advance.bind fun _ => rel_targetName.bind fun _ => rel_parameters.bind fun _ =>
    (h _ _).bind fun _ => .pure _

theorem rel_callBlock (h : ∀ ends take, L.Rel (body ends take) (body' ends take)) :
    L.Rel (callBlock body) (callBlock body') := by
  refine Rel.advance.bind fun t => (Rel.sees _).bind fun _ =>
    .ite (rel_parameters.bind fun _ => ?parenthesised) ((Rel.pure _).bind fun _ => ?bare)
  case parenthesised | bare =>
    refine rel_expression.bind fun e => ?_
    split
    · exact (h _ _).bind fun _ => .pure _
    · exact .failAt _ rfl

theorem rel_filterBlock (h : ∀ ends take, L.Rel (body ends take) (body' ends take)) :
    L.Rel (filterBlock body) (filterBlock body') :=
  Rel.advance.bind fun _ => (rel_filterStep rel_within none).bind fun _ =>
    (rel_filters rel_within _).bind fun _ => (h _ _).bind fun _ => .pure _

/-! ## All statements -/

/-- The statements have the same first words, whatever the readers for bodies are. -/
theorem rel_statementRules (h : ∀ ends take, L.Rel (body ends take) (body' ends take)) :
    List.Forall₂ (fun r r' => r.1 = r'.1 ∧ L.Rel r.2 r'.2) (statementRules body)
      (statementRules body') := by
  refine .cons ⟨rfl, rel_loop h⟩ <| .cons ⟨rfl, rel_branch h⟩ <| .cons ⟨rfl, rel_block h⟩ <|
    .cons ⟨rfl, rel_inherit⟩ <| .cons ⟨rfl, rel_print⟩ <| .cons ⟨rfl, rel_define h⟩ <|
    .cons ⟨rfl, rel_insert⟩ <| .cons ⟨rfl, rel_loadNames⟩ <| .cons ⟨rfl, rel_load⟩ <|
    .cons ⟨rfl, rel_assignTo h⟩ <| .cons ⟨rfl, rel_bind h⟩ <| .cons ⟨rfl, rel_escaping h⟩ <|
    .cons ⟨rfl, rel_callBlock h⟩ <| .cons ⟨rfl, rel_filterBlock h⟩ <|
    .cons ⟨rfl, rel_assignment⟩ <| .cons ⟨rfl, rel_counter⟩ <| .cons ⟨rfl, rel_counter⟩ <|
    .cons ⟨rfl, rel_echo⟩ <| .cons ⟨rfl, rel_cycle⟩ <| .cons ⟨rfl, rel_partialCall _⟩ <|
    .cons ⟨rfl, rel_partialCall _⟩ <| .cons ⟨rfl, rel_layout⟩ <| .cons ⟨rfl, rel_lineTags h⟩ <|
    .cons ⟨rfl, rel_lone _⟩ <| .cons ⟨rfl, rel_lone _⟩ <| .cons ⟨rfl, rel_evaluate⟩ .nil

end Bodies

/-- Where one list of rules has a rule for a word, the other has one, and the two are local. -/
theorem rel_lookup_of_forall₂ {rules rules' : List (Text × Parse Stmt)}
    (h : List.Forall₂ (fun r r' => r.1 = r'.1 ∧ L.Rel r.2 r'.2) rules rules') (name : Text) :
    Option.Rel (L.Rel) (rules.lookup name) (rules'.lookup name) := by
  induction h with
  | nil => exact .none
  | @cons r r' rules rules' hr _ ih =>
      rcases r with ⟨word, p⟩
      rcases r' with ⟨word', p'⟩
      obtain ⟨rfl, hp⟩ : word = word' ∧ L.Rel p p' := hr
      rw [List.lookup_cons, List.lookup_cons]
      cases name == word with
      | true => exact .some hp
      | false => exact ih

/-! ## Statements and their bodies -/

section Contents

variable {bodyIn bodyIn' : Context → Body}

theorem rel_statement (h : ∀ c c' ends take, L.Rel (bodyIn c ends take) (bodyIn' c' ends take))
    (c c' : Context) : L.Rel (statement bodyIn c) (statement bodyIn' c') := by
  refine Rel.current.bind fun t => ?_
  split
  · next name _ =>
      have hrel := rel_lookup_of_forall₂ (rel_statementRules (L := L)
        (h { c with tags := name :: c.tags } { c' with tags := name :: c'.tags })) name
      revert hrel
      generalize (statementRules (bodyIn { c with tags := name :: c.tags })).lookup name = p
      generalize (statementRules (bodyIn' { c' with tags := name :: c'.tags })).lookup name = q
      intro hrel
      cases hrel with
      | none => exact .failAt _ rfl
      | some hpq => exact hpq
  · exact .failAt _ rfl

theorem rel_contents (h : ∀ c c' ends take, L.Rel (bodyIn c ends take) (bodyIn' c' ends take))
    (c c' : Context) (ends : Option (List Text)) :
    L.Rel (contents bodyIn c ends) (contents bodyIn' c' ends) := by
  refine .iterate (fun collected => Rel.kind.bind fun k => ?_) _
  split
  · exact .pure _
  · exact Rel.advance.bind fun _ => .pure _
  · exact Rel.advance.bind fun _ => rel_tuple.bind fun _ => (Rel.expect _).bind fun _ => .pure _
  · exact Rel.advance.bind fun _ => Rel.kind.bind fun _ => .ite (.pure _) <|
      (rel_statement h c c').bind fun _ => (Rel.expect _).bind fun _ => .pure _

end Contents

section Inner

variable {inner inner' : Context × Option (List Text) → Parse (List Stmt)}

theorem rel_bodyOf (h : ∀ c c' ends, L.Rel (inner (c, ends)) (inner' (c', ends))) (c c' : Context)
    (ends : List Text) (take : Bool) :
    L.Rel (bodyOf inner c ends take) (bodyOf inner' c' ends take) := by
  refine (Rel.accept _).bind fun _ => (Rel.expect _).bind fun _ => (h _ _ _).bind fun statements =>
    Rel.kind.bind fun _ => ?_
  have htake : L.Rel
      (if take = true then advance >>= fun _ => pure statements else pure statements)
      (if take = true then advance >>= fun _ => pure statements else pure statements) :=
    .ite (Rel.advance.bind fun _ => .pure _) (.pure _)
  exact .ite (Rel.bind (.fail rfl) fun _ : Unit => htake) htake

/-- What is open around a body does not show in what is read. -/
def SameEnds (a b : Context × Option (List Text)) : Prop :=
  a.2 = b.2

theorem rel_bodyRule (h : ∀ a b, SameEnds a b → L.Rel (inner a) (inner' b))
    (a b : Context × Option (List Text)) (hab : SameEnds a b) :
    L.Rel (bodyRule inner a) (bodyRule inner' b) := by
  rcases a with ⟨c, ends⟩
  rcases b with ⟨c', ends'⟩
  obtain rfl : ends = ends' := hab
  exact rel_contents (rel_bodyOf fun c c' ends => h _ _ rfl) c c' ends

end Inner

end Grammar
end Template
end LiquidMarkdown
