import LiquidMarkdown.Proofs.Template.Law
import LiquidMarkdown.Template.Grammar.Expression

/-!
# Laws of expressions

Each level of the expression grammar is related to itself by a law if the readers for what stands
inside it are.  The knot that `Parse.recursive` ties makes the levels readers of each other with
fewer tokens, so that all of them are related without a condition: `rel_expression`,
`rel_disjunction`, `rel_tuple`, `rel_target`.
-/

namespace LiquidMarkdown
namespace Template
namespace Grammar

open Parse Law

variable {L : Law}

/-! ## Arguments -/

theorem rel_atKeyword : L.Rel atKeyword atKeyword := by
  refine .kind_bind (.pure false) fun k _ => ?_
  split
  · exact Ahead.peek.bind fun _ => .pure _
  · exact (Rel.pure false).ahead

theorem rel_dottedName : L.Rel dottedName dottedName :=
  Rel.expectName.bind fun _ => .iterate (fun _ => (Rel.accept _).bind fun _ =>
    .ite (Rel.expectName.bind fun _ => .pure _) (.pure _)) _

section Levels

variable {inner inner' : Inner}

theorem rel_argument (h : ∀ g, L.Rel (inner g) (inner' g)) (n : Nat) (args : Arguments Expr) :
    L.Rel (argument inner n args) (argument inner' n args) := by
  have hensure (ok : Bool) : L.Rel (if ok = true then pure () else failAt n .badArguments)
      (if ok = true then pure () else failAt n .badArguments) :=
    .ite (.pure ()) (.failAt _ rfl)
  refine (Rel.sees _).bind fun _ => .ite ?sequence <| (Rel.sees _).bind fun _ => .ite ?mapping <|
    rel_atKeyword.bind fun _ => .ite ?keyword ?position
  case sequence | mapping =>
    exact (hensure _).bind fun _ => Rel.advance.bind fun _ => (h .expression).bind fun _ => .pure _
  case keyword =>
    exact (hensure _).bind fun _ => Rel.expectName.bind fun _ => Rel.advance.bind fun _ =>
      (h .expression).bind fun _ => .pure _
  case position => exact (hensure _).bind fun _ => (h .expression).bind fun _ => .pure _

theorem rel_callArguments (h : ∀ g, L.Rel (inner g) (inner' g)) :
    L.Rel (callArguments inner) (callArguments inner') := by
  refine (Rel.expect _).bind fun _ => (Rel.iterate (fun _ => ?round) _).bind fun _ =>
    (Rel.expect _).bind fun _ => .pure _
  case round =>
    exact (Rel.sees _).bind fun _ => .ite (.pure _) <| .expectUnless _ <|
      (Rel.sees _).bind fun _ => .ite (.pure _) <| (rel_argument h _ _).bind fun _ => .pure _

theorem rel_optionalArguments (h : ∀ g, L.Rel (inner g) (inner' g)) :
    L.Rel (optionalArguments inner) (optionalArguments inner') :=
  (Rel.sees _).bind fun _ => .ite (rel_callArguments h) (.pure _)

/-! ## Tuples and items -/

theorem rel_atTupleEnd : L.Rel atTupleEnd atTupleEnd := by
  refine Rel.kind.bind fun k => ?_
  split <;> exact .pure _

theorem rel_tupleOf {item item' : Parse Located} (h : L.Rel item item') (parenthesised : Bool) :
    L.Rel (tupleOf item parenthesised) (tupleOf item' parenthesised) := by
  refine Rel.line.bind fun _ => (Rel.iterate (fun _ => ?round) _).bind fun r => ?_
  case round =>
    exact .expectUnless _ <| rel_atTupleEnd.bind fun _ => .ite (.pure _) <| h.bind fun _ =>
      (Rel.sees _).bind fun _ => .ite (Rel.line.bind fun _ => .pure _) (.pure _)
  rcases r with ⟨items, isTuple, last⟩
  dsimp only
  split
  · exact .pure _
  · exact .ite (.pure _) (Rel.kind.bind fun _ => .fail rfl)
  · exact .pure _

theorem rel_itemsUntil {α : Type} {item item' : Parse α} (h : L.Rel item item')
    (close : Operator) : L.Rel (itemsUntil close item) (itemsUntil close item') := by
  refine (Rel.iterate (fun _ => ?round) _).bind fun _ => (Rel.expect _).bind fun _ => .pure _
  case round =>
    exact (Rel.sees _).bind fun _ => .ite (.pure _) <| .expectUnless _ <|
      (Rel.sees _).bind fun _ => .ite (.pure _) <| h.bind fun _ => .pure _

theorem rel_entry (h : ∀ g, L.Rel (inner g) (inner' g)) :
    L.Rel (entry inner) (entry inner') :=
  (h .expression).bind fun _ => (Rel.expect _).bind fun _ => (h .expression).bind fun _ => .pure _

/-! ## Primary expressions -/

theorem rel_moreStrings (first : Text) : L.Rel (moreStrings first) (moreStrings first) := by
  refine .iterate (fun text => Rel.kind.bind fun k => ?_) _
  split
  · exact Rel.advance.bind fun _ => .pure _
  · exact .pure _

theorem rel_nameExpr (members : Bool) (name : Text) :
    L.Rel (nameExpr members name) (nameExpr members name) := by
  refine .ite (.pure _) <| .ite (.pure _) <| .ite (.pure _) ?_
  cases members with
  | false => exact .pure _
  | true =>
      exact (Rel.sees _).bind fun _ => .ite
        (Rel.advance.bind fun _ => Rel.expectName.bind fun _ => .pure _) (.pure _)

theorem rel_primary (h : ∀ g, L.Rel (inner g) (inner' g)) (members : Bool) :
    L.Rel (primary inner members) (primary inner' members) := by
  refine Rel.current.bind fun t => ?_
  split
  · exact Rel.advance.bind fun _ => (rel_nameExpr _ _).bind fun _ => .pure _
  · exact Rel.advance.bind fun _ => (rel_moreStrings _).bind fun _ => .pure _
  · exact Rel.advance.bind fun _ => .pure _
  · exact Rel.advance.bind fun _ => .pure _
  · exact Rel.advance.bind fun _ => (rel_tupleOf (h .expression) true).bind fun _ =>
      (Rel.expect _).bind fun _ => .pure _
  · exact Rel.advance.bind fun _ =>
      (rel_itemsUntil ((h .expression).bind fun _ => .pure _) _).bind fun _ => .pure _
  · exact Rel.advance.bind fun _ => (rel_itemsUntil (rel_entry h) _).bind fun _ => .pure _
  · exact .failAt _ rfl

/-! ## What follows a primary expression -/

theorem rel_sliceEnd (h : ∀ g, L.Rel (inner g) (inner' g)) (stopAtColon : Bool) :
    L.Rel (sliceEnd inner stopAtColon) (sliceEnd inner' stopAtColon) := by
  have hexpression := (h .expression).bind fun e => .pure (some e.expr)
  refine Rel.kind.bind fun k => ?_
  split
  · exact .pure _
  · exact .pure _
  · exact .ite (.pure _) hexpression
  · exact hexpression

theorem rel_sliceFrom (h : ∀ g, L.Rel (inner g) (inner' g)) (start : Option Expr) :
    L.Rel (sliceFrom inner start) (sliceFrom inner' start) :=
  (Rel.expect _).bind fun _ => (rel_sliceEnd h _).bind fun _ => (Rel.accept _).bind fun _ =>
    .ite ((rel_sliceEnd h _).bind fun _ => .pure _) (.pure _)

theorem rel_subscript (h : ∀ g, L.Rel (inner g) (inner' g)) :
    L.Rel (subscript inner) (subscript inner') :=
  (Rel.sees _).bind fun _ => .ite (rel_sliceFrom h _) <| (h .expression).bind fun _ =>
    (Rel.sees _).bind fun _ => .ite (rel_sliceFrom h _) (.pure _)

theorem rel_subscripts (h : ∀ g, L.Rel (inner g) (inner' g)) :
    L.Rel (subscripts inner) (subscripts inner') := by
  refine (Rel.iterate (fun _ => ?round) _).bind fun items => (Rel.expect _).bind fun _ => ?_
  case round =>
    exact (Rel.sees _).bind fun _ => .ite (.pure _) <| .expectUnless _ <|
      (rel_subscript h).bind fun _ => .pure _
  split <;> exact .pure _

theorem rel_property (n : Nat) (e : Expr) : L.Rel (property n e) (property n e) := by
  refine Rel.advance.bind fun t => ?_
  split
  · exact .pure _
  · exact .pure _
  · exact .failAt _ rfl

theorem rel_postfixes (h : ∀ g, L.Rel (inner g) (inner' g)) (e : Located) :
    L.Rel (postfixes inner e) (postfixes inner' e) := by
  refine .iterate (fun e => Rel.current.bind fun t => ?_) e
  split
  · exact Rel.advance.bind fun _ => (rel_property _ _).bind fun _ => .pure _
  · exact Rel.advance.bind fun _ => (rel_subscripts h).bind fun _ => .pure _
  · exact (rel_callArguments h).bind fun _ => .pure _
  · exact .pure _

theorem rel_filterStep (h : ∀ g, L.Rel (inner g) (inner' g)) (operand : Option Expr) :
    L.Rel (filterStep inner operand) (filterStep inner' operand) :=
  rel_dottedName.bind fun _ => (rel_optionalArguments h).bind fun _ => .pure _

theorem rel_filters (h : ∀ g, L.Rel (inner g) (inner' g)) (operand : Option Located) :
    L.Rel (filters inner operand) (filters inner' operand) :=
  .iterate (fun _ => (Rel.accept _).bind fun _ =>
    .ite ((rel_filterStep h _).bind fun _ => .pure _) (.pure _)) operand

theorem rel_atBareArgument : L.Rel atBareArgument atBareArgument := by
  refine Rel.kind.bind fun k => ?_
  split <;> exact .pure _

theorem rel_testArguments (h : ∀ g, L.Rel (inner g) (inner' g)) :
    L.Rel (testArguments inner) (testArguments inner') := by
  have hoperand := (rel_primary h false).bind fun e => (rel_postfixes h e).bind fun e =>
    .pure { (Arguments.empty : Arguments Expr) with positional := [e.expr] }
  exact (Rel.sees _).bind fun _ => .ite (rel_callArguments h) <| rel_atBareArgument.bind fun _ =>
    .ite ((Rel.sees _).bind fun _ => .ite (Rel.bind (.fail rfl) fun _ => hoperand) hoperand)
      (.pure _)

theorem rel_test (h : ∀ g, L.Rel (inner g) (inner' g)) (e : Expr) :
    L.Rel (test inner e) (test inner' e) :=
  Rel.advance.bind fun _ => (Rel.accept _).bind fun _ => rel_dottedName.bind fun _ =>
    (rel_testArguments h).bind fun _ => .pure _

theorem rel_applications (h : ∀ g, L.Rel (inner g) (inner' g)) (e : Located) :
    L.Rel (applications inner e) (applications inner' e) := by
  refine .iterate (fun e => Rel.current.bind fun t => ?_) e
  split
  · exact (rel_filters h _).bind fun _ => .pure _
  · exact (rel_callArguments h).bind fun _ => .pure _
  · exact (Rel.sees _).bind fun _ => .ite ((rel_test h _).bind fun _ => .pure _) (.pure _)

/-! ## Operators -/

theorem rel_signed (h : ∀ g, L.Rel (inner g) (inner' g)) (withFilters : Bool) :
    L.Rel (signed inner withFilters) (signed inner' withFilters) := by
  have hrest (e : Located) : L.Rel
      (postfixes inner e >>= fun e => if withFilters then applications inner e else pure e)
      (postfixes inner' e >>= fun e => if withFilters then applications inner' e else pure e) :=
    (rel_postfixes h e).bind fun e => .ite (rel_applications h e) (.pure e)
  refine Rel.current.bind fun t => ?_
  dsimp only
  split
  · exact Rel.advance.bind fun _ => (h .signed).bind fun _ => (Rel.pure _).bind hrest
  · exact Rel.advance.bind fun _ => (h .signed).bind fun _ => (Rel.pure _).bind hrest
  · exact (rel_primary h false).bind hrest

theorem rel_leftChain {operand operand' : Parse Located} (h : L.Rel operand operand')
    (operator? : Token.Kind → Option BinaryOperator) :
    L.Rel (leftChain operator? operand) (leftChain operator? operand') := by
  refine Rel.line.bind fun _ => h.bind fun _ => .iterate (fun _ => Rel.kind.bind fun k => ?_) _
  split
  · exact .pure _
  · exact Rel.advance.bind fun _ => h.bind fun _ => Rel.line.bind fun _ => .pure _

theorem rel_product (h : ∀ g, L.Rel (inner g) (inner' g)) :
    L.Rel (product inner) (product inner') :=
  rel_leftChain (rel_leftChain (rel_signed h true) _) _

theorem rel_concatenation (h : ∀ g, L.Rel (inner g) (inner' g)) :
    L.Rel (concatenation inner) (concatenation inner') :=
  Rel.line.bind fun _ => (rel_product h).bind fun _ =>
    (Rel.iterate (fun _ => (Rel.accept _).bind fun _ =>
      .ite ((rel_product h).bind fun _ => .pure _) (.pure _)) _).bind fun _ =>
    .ite (.pure _) (.pure _)

theorem rel_sum (h : ∀ g, L.Rel (inner g) (inner' g)) : L.Rel (sum inner) (sum inner') :=
  rel_leftChain (rel_concatenation h) _

theorem rel_comparison? : L.Rel comparison? comparison? := by
  have htake (op : CompareOperator) := Rel.advance.bind fun _ => Rel.pure (L := L) (some op)
  refine Rel.kind.bind fun k => ?_
  split
  · exact htake .eq
  · exact htake .ne
  · exact htake .lt
  · exact htake .le
  · exact htake .gt
  · exact htake .ge
  · exact (Rel.accept _).bind fun _ => .ite (.pure _) <| .sees_bind (by simp)
      (Ahead.peek.bind fun _ => .ite
        (Rel.advance.bind fun _ => Rel.advance.bind fun _ => .pure _) (.pure _))
      (.pure none)

theorem rel_comparison (h : ∀ g, L.Rel (inner g) (inner' g)) :
    L.Rel (comparison inner) (comparison inner') := by
  refine Rel.line.bind fun _ => (rel_sum h).bind fun _ =>
    (Rel.iterate (fun _ => rel_comparison?.bind fun op => ?_) _).bind fun _ =>
    .ite (.pure _) (.pure _)
  cases op with
  | none => exact .pure _
  | some op => exact (rel_sum h).bind fun _ => Rel.line.bind fun _ => .pure _

theorem rel_negation (h : ∀ g, L.Rel (inner g) (inner' g)) :
    L.Rel (negation inner) (negation inner') := by
  refine (Rel.accept? _).bind fun t => ?_
  cases t with
  | none => exact rel_comparison h
  | some t => exact (h .negation).bind fun _ => .pure _

theorem rel_disjunctionOf (h : ∀ g, L.Rel (inner g) (inner' g)) :
    L.Rel (disjunctionOf inner) (disjunctionOf inner') :=
  rel_leftChain (rel_leftChain (rel_negation h) _) _

theorem rel_conditional (h : ∀ g, L.Rel (inner g) (inner' g)) :
    L.Rel (conditional inner) (conditional inner') := by
  refine Rel.line.bind fun _ => (rel_disjunctionOf h).bind fun _ => .iterate (fun _ => ?round) _
  case round =>
    exact (Rel.accept _).bind fun _ => .ite
      ((rel_disjunctionOf h).bind fun _ => (Rel.accept _).bind fun _ => .ite
        ((h .expression).bind fun _ => (Rel.pure _).bind fun _ => Rel.line.bind fun _ => .pure _)
        ((Rel.pure _).bind fun _ => Rel.line.bind fun _ => .pure _))
      (.pure _)

end Levels

/-! ## Entries -/

theorem rel_within (g : Goal) : L.Rel (within g) (within g) := by
  refine .recursive (fun inner inner' h i i' hi => ?_) (rfl : g = g)
  subst hi
  have hinner : ∀ g, L.Rel (inner g) (inner' g) := fun g => h g g rfl
  cases i with
  | expression => exact rel_conditional hinner
  | negation => exact rel_negation hinner
  | signed => exact rel_signed hinner false

theorem rel_expression : L.Rel expression expression :=
  rel_within .expression

theorem rel_disjunction : L.Rel disjunction disjunction :=
  rel_disjunctionOf rel_within

theorem rel_tuple : L.Rel tuple tuple :=
  rel_tupleOf rel_expression false

theorem rel_assignable (e : Located) : L.Rel (assignable e) (assignable e) :=
  .ite (.pure _) (.failAt _ rfl)

theorem rel_targetName : L.Rel targetName targetName :=
  Rel.expectName.bind fun _ => (rel_assignable _).bind fun _ => .pure _

theorem rel_target (members : Bool) : L.Rel (target members) (target members) :=
  (rel_tupleOf (rel_primary rel_within members) false).bind fun _ =>
    (rel_assignable _).bind fun _ => .pure _

end Grammar
end Template
end LiquidMarkdown
