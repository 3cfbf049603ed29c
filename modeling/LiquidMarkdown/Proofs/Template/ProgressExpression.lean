import LiquidMarkdown.Proofs.Template.Progress
import LiquidMarkdown.Template.Grammar.Expression

/-!
# Expressions make progress

Each level of the expression grammar takes a token if the readers for what stands inside it do, and
calls them only with fewer tokens than it was given.  The levels that begin with a reader for what
stands inside, such as `argument` and `subscript`, are called behind a token themselves.  So the
knot that `Parse.recursive` ties comes to no stop: `consumes_expression`, `consumes_disjunction`,
`reads_tuple`, `reads_target`.
-/

namespace LiquidMarkdown
namespace Template
namespace Grammar

open Parse

variable {n : Nat}

/-! ## Arguments -/

theorem reads_atKeyword : Reads n atKeyword := by
  refine ReadsTo.kind_bind fun k => ?_
  split
  · exact .peek_bind fun _ => (ReadsTo.pure _).readsAt
  · exact (ReadsTo.pure _).readsAt

theorem consumes_dottedName : Consumes n dottedName :=
  Consumes.expectName.bind fun _ => .iterate (fun _ => .accept_bind
    (Consumes.expectName.bind fun _ => .pure _) (.stop _)) _

section Levels

variable {inner : Inner}

/-! ### Readers that are called behind a token -/

theorem consumes_argument (h : ∀ g, Consumes n (inner g)) (l : Nat) (args : Arguments Expr) :
    Consumes n (argument inner l args) := by
  have hensure (ok : Bool) : Reads n (if ok = true then pure () else failAt l .badArguments) :=
    .ite (.pure ()) (.failAt _ (by simp))
  refine (Reads.sees _).bind fun _ => .ite ?sequence <|
    (Reads.sees _).bind fun _ => .ite ?mapping <|
    reads_atKeyword.bind fun _ => .ite ?keyword ?position
  case sequence | mapping =>
    exact (hensure _).bind fun _ => Reads.advance.bind fun _ =>
      (h .expression).bind fun _ => .pure _
  case keyword =>
    exact (hensure _).bind fun _ => Consumes.expectName.bind fun _ => Reads.advance.bind fun _ =>
      (h .expression).bind fun _ => .pure _
  case position => exact (hensure _).bind fun _ => (h .expression).bind fun _ => .pure _

theorem reads_tupleOf {item : Parse Located} (h : Consumes n item) (parenthesised : Bool) :
    Reads n (tupleOf item parenthesised) := by
  refine Reads.line.bind fun _ => (Reads.iterate (fun _ => ?round) _).bind fun r => ?_
  case round =>
    have hend : Reads n atTupleEnd := by
      refine Reads.kind.bind fun k => ?_
      split <;> exact .pure _
    exact .expectUnless _ <| hend.bind fun _ => .ite (.stop _) <| h.bind fun _ =>
      (Reads.sees _).bind fun _ => .ite (Reads.line.bind fun _ => .pure _) (.pure _)
  rcases r with ⟨items, isTuple, last⟩
  dsimp only
  split
  · exact .pure _
  · exact .ite (.pure _) (Reads.kind.bind fun _ => .fail (by simp))
  · exact .pure _

theorem reads_itemsUntil {α : Type} {item : Parse α} (h : Consumes n item) (close : Operator) :
    Reads n (itemsUntil close item) := by
  refine (Reads.iterate (fun _ => ?round) _).bind fun _ => (Consumes.expect _).bind fun _ => .pure _
  case round =>
    exact .stopAt _ <| .expectUnless _ <|
      .stopAt _ <| h.bind fun _ => .pure _

theorem consumes_entry (h : ∀ g, Consumes n (inner g)) : Consumes n (entry inner) :=
  (h .expression).bind fun _ => (Consumes.expect _).bind fun _ =>
    (h .expression).bind fun _ => .pure _

theorem reads_sliceEnd (h : ∀ g, Consumes n (inner g)) (stopAtColon : Bool) :
    Reads n (sliceEnd inner stopAtColon) := by
  have hexpression : Reads n (inner .expression >>= fun e => pure (some e.expr)) :=
    (h .expression).bind fun _ => .pure _
  refine Reads.kind.bind fun k => ?_
  split
  · exact .pure _
  · exact .pure _
  · exact .ite (.pure _) hexpression
  · exact hexpression

theorem consumes_sliceFrom (h : ∀ g, Consumes n (inner g)) (start : Option Expr) :
    Consumes n (sliceFrom inner start) :=
  (Consumes.expect _).bind fun _ => (reads_sliceEnd h _).bind fun _ => .accept_bind
    ((reads_sliceEnd h _).bind fun _ => .pure _) (.pure _)

theorem consumes_subscript (h : ∀ g, Consumes n (inner g)) : Consumes n (subscript inner) :=
  (Reads.sees _).bind fun _ => .ite (consumes_sliceFrom h _) <| (h .expression).bind fun _ =>
    (Reads.sees _).bind fun _ => .ite (consumes_sliceFrom h _).reads (.pure _)

theorem reads_subscripts (h : ∀ g, Consumes n (inner g)) : Reads n (subscripts inner) := by
  refine (Reads.iterate (fun _ => ?round) _).bind fun items =>
    (Consumes.expect _).bind fun _ => ?_
  case round =>
    exact .stopAt _ <| .expectUnless _ <|
      (consumes_subscript h).bind fun _ => .pure _
  split <;> exact .pure _

/-! ### Arguments in parentheses -/

theorem consumes_callArguments (h : ∀ g, Consumes n (inner g)) :
    Consumes (n + 1) (callArguments inner) := by
  refine (Consumes.expect _).bind_below fun _ => (Reads.iterate (fun _ => ?round) _).bind fun _ =>
    (Consumes.expect _).bind fun _ => .pure _
  case round =>
    exact .stopAt _ <| .expectUnless _ <|
      .stopAt _ <|
        (consumes_argument h _ _).bind fun _ => .pure _

theorem reads_optionalArguments (h : ∀ g, Consumes n (inner g)) :
    Reads (n + 1) (optionalArguments inner) :=
  (Reads.sees _).bind fun _ => .ite (consumes_callArguments h).reads (.pure _)

/-! ### Primary expressions -/

theorem reads_moreStrings (first : Text) : Reads n (moreStrings first) := by
  refine .iterate (fun text => ReadsTo.kind_bind fun k => ?_) _
  split
  · exact .advance_bind (by simp) fun _ => .pure _
  · exact (ReadsTo.stop _).readsAt

theorem reads_nameExpr (members : Bool) (name : Text) : Reads n (nameExpr members name) := by
  refine .ite (.pure _) <| .ite (.pure _) <| .ite (.pure _) ?_
  cases members with
  | false => exact .pure _
  | true =>
      exact (Reads.sees _).bind fun _ => .ite
        (Reads.advance.bind fun _ => Consumes.expectName.bind fun _ => .pure _) (.pure _)

theorem consumes_primary (h : ∀ g, Consumes n (inner g)) (members : Bool) :
    Consumes (n + 1) (primary inner members) := by
  refine ReadsTo.current_bind fun l k => ?_
  dsimp only
  split
  · exact .advance_bind_below (by simp) fun _ => (reads_nameExpr _ _).bind fun _ => .pure _
  · exact .advance_bind_below (by simp) fun _ => (reads_moreStrings _).bind fun _ => .pure _
  · exact .advance_bind_below (by simp) fun _ => .pure _
  · exact .advance_bind_below (by simp) fun _ => .pure _
  · exact .advance_bind_below (by simp) fun _ => (reads_tupleOf (h .expression) true).bind fun _ =>
      (Consumes.expect _).bind fun _ => .pure _
  · exact .advance_bind_below (by simp) fun _ =>
      (reads_itemsUntil ((h .expression).bind fun _ => .pure _) _).bind fun _ => .pure _
  · exact .advance_bind_below (by simp) fun _ =>
      (reads_itemsUntil (consumes_entry h) _).bind fun _ => .pure _
  · exact (ReadsTo.failAt _ (by simp)).readsAt

/-! ### What follows a primary expression -/

theorem reads_property (l : Nat) (e : Expr) : Reads n (property l e) := by
  refine Reads.advance.bind fun t => ?_
  split
  · exact .pure _
  · exact .pure _
  · exact .failAt _ (by simp)

theorem reads_postfixes (h : ∀ g, Consumes n (inner g)) (e : Located) :
    Reads (n + 1) (postfixes inner e) := by
  refine .iterate (fun e => ReadsTo.current_bind fun l k => ?_) e
  dsimp only
  split
  · exact .advance_bind (by simp) fun _ => (reads_property _ _).bind fun _ => .pure _
  · exact .advance_bind_below (by simp) fun _ => (reads_subscripts h).bind fun _ => .pure _
  · exact ((consumes_callArguments h).bind fun _ => .pure _).readsAt
  · exact (ReadsTo.stop _).readsAt

theorem consumes_filterStep (h : ∀ g, Consumes n (inner g)) (operand : Option Expr) :
    Consumes (n + 1) (filterStep inner operand) :=
  consumes_dottedName.bind fun _ => (reads_optionalArguments h).bind fun _ => .pure _

theorem reads_filters (h : ∀ g, Consumes n (inner g)) (operand : Option Located) :
    Reads (n + 1) (filters inner operand) :=
  .iterate
    (fun _ => .accept_bind ((consumes_filterStep h _).bind fun _ => .pure _) (.stop _)) operand

/-- Where a filter begins, its bar is taken. -/
theorem filters_at_pipe (h : ∀ g, Consumes n (inner g)) (operand : Option Located) :
    ReadsAt (.operator .pipe) (n + 1) (fun _ => True) (filters inner operand) := by
  refine .iterate
    (fun _ => .accept_bind ((consumes_filterStep h _).bind fun _ => .pure _) (.stop _)) ?first
  case first =>
    exact (ReadsAt.accept rfl).taken_bind (Nat.le_succ _) fun _ =>
      .ite ((consumes_filterStep h _).bind fun _ => .pure _) (.pure _)

theorem reads_testArguments (h : ∀ g, Consumes n (inner g)) :
    Reads (n + 1) (testArguments inner) := by
  have hbare : Reads (n + 1) atBareArgument := by
    refine Reads.kind.bind fun k => ?_
    split <;> exact .pure _
  refine (Reads.sees _).bind fun _ => .ite (consumes_callArguments h).reads <|
    hbare.bind fun _ => .ite ?operand (.pure _)
  case operand =>
    exact (Reads.sees _).bind fun _ => .check (.fail (by simp)) <|
      (consumes_primary h false).bind fun e => (reads_postfixes h e).bind fun _ => .pure _

/-- Where a test begins, its word is taken. -/
theorem test_at (h : ∀ g, Consumes n (inner g)) (e : Expr) {k : Token.Kind} (hk : k ≠ .eof) :
    ReadsAt k (n + 1) (fun _ => True) (test inner e) :=
  .advance_bind hk fun _ => (ReadsTo.accept _).reads.bind fun _ =>
    consumes_dottedName.reads.bind fun _ => (reads_testArguments h).bind fun _ => .pure _

theorem reads_applications (h : ∀ g, Consumes n (inner g)) (e : Located) :
    Reads (n + 1) (applications inner e) := by
  refine .iterate (fun e => ReadsTo.current_bind fun l k => ?_) e
  dsimp only
  split
  · exact (filters_at_pipe h _).taken_bind (Nat.le_succ _) fun _ => .pure _
  · exact ((consumes_callArguments h).bind fun _ => .pure _).readsAt
  · exact (ReadsTo.sees_bind (fun _ hk => (test_at h _ (ne_eof_of_accepts hk)).taken_bind
      (Nat.le_succ _) fun _ => .pure _) (.stop _)).readsAt

/-! ### Operators -/

theorem consumes_signed (h : ∀ g, Consumes n (inner g)) (withFilters : Bool) :
    Consumes (n + 1) (signed inner withFilters) := by
  have hrest (e : Located) : Reads (n + 1)
      (postfixes inner e >>= fun e => if withFilters then applications inner e else pure e) :=
    (reads_postfixes h e).bind fun e => .ite (reads_applications h e) (.pure e)
  refine ReadsTo.current_bind fun l k => ?_
  dsimp only
  split
  · exact .advance_bind_below (by simp) fun _ => (h .signed).bind fun _ =>
      (ReadsTo.pure _).bind fun e => (hrest e).of_succ
  · exact .advance_bind_below (by simp) fun _ => (h .signed).bind fun _ =>
      (ReadsTo.pure _).bind fun e => (hrest e).of_succ
  · exact ((consumes_primary h false).bind hrest).readsAt

theorem consumes_leftChain {operand : Parse Located} (h : Consumes n operand)
    {operator? : Token.Kind → Option BinaryOperator} (hend : operator? .eof = none) :
    Consumes n (leftChain operator? operand) := by
  refine Reads.line.bind fun _ => h.bind fun _ =>
    .iterate (fun _ => ReadsTo.kind_bind fun k => ?_) _
  cases hop : operator? k with
  | none => exact (ReadsTo.stop _).readsAt
  | some op =>
      refine .advance_bind ?_ fun _ => h.bind fun _ => Reads.line.bind fun _ => .pure _
      rintro rfl
      rw [hend] at hop
      cases hop

theorem consumes_product (h : ∀ g, Consumes n (inner g)) : Consumes (n + 1) (product inner) :=
  consumes_leftChain (consumes_leftChain (consumes_signed h true) rfl) rfl

theorem consumes_concatenation (h : ∀ g, Consumes n (inner g)) :
    Consumes (n + 1) (concatenation inner) :=
  Reads.line.bind fun _ => (consumes_product h).bind fun _ =>
    (Reads.iterate (fun _ => .accept_bind ((consumes_product h).bind fun _ => .pure _) (.stop _))
      _).bind fun _ => .ite (.pure _) (.pure _)

theorem consumes_sum (h : ∀ g, Consumes n (inner g)) : Consumes (n + 1) (sum inner) :=
  consumes_leftChain (consumes_concatenation h) rfl

/-- A comparison that begins takes its operator. -/
theorem readsTo_comparison? : ReadsTo n (fun op => op.isSome = true) comparison? := by
  refine ReadsTo.kind_bind fun k => ?_
  split
  · exact .advance_bind (by simp) fun _ => .pure _
  · exact .advance_bind (by simp) fun _ => .pure _
  · exact .advance_bind (by simp) fun _ => .pure _
  · exact .advance_bind (by simp) fun _ => .pure _
  · exact .advance_bind (by simp) fun _ => .pure _
  · exact .advance_bind (by simp) fun _ => .pure _
  · refine ReadsTo.readsAt (.accept_bind (.pure _) ?_)
    refine .sees_bind (fun k hk => .peek_bind fun _ => .ite ?_ ?_) (.leave (by simp))
    · exact .advance_bind (ne_eof_of_accepts hk) fun _ => Reads.advance.bind fun _ => .pure _
    · exact (ReadsTo.leave (by simp)).readsAt

theorem consumes_comparison (h : ∀ g, Consumes n (inner g)) :
    Consumes (n + 1) (comparison inner) := by
  refine Reads.line.bind fun _ => (consumes_sum h).bind fun _ =>
    (Reads.iterate (fun _ => ?round) _).bind fun _ => .ite (.pure _) (.pure _)
  case round =>
    refine fun k =>
      .bind (Nat.le_succ _) readsTo_comparison?.readsAt (fun op _ => ?_) fun op hno => ?_
    · cases op with
      | none => exact .pure _
      | some op => exact (consumes_sum h).bind fun _ => Reads.line.bind fun _ => .pure _
    · cases op with
      | none => exact .stop _
      | some op => exact absurd rfl hno

theorem consumes_negation (h : ∀ g, Consumes n (inner g)) : Consumes (n + 1) (negation inner) := by
  refine fun k => .bind (Nat.le_refl _) (ReadsTo.accept? _).readsAt (fun t ht => ?_) fun t hno => ?_
  · cases t with
    | none => cases ht
    | some t => exact (h .negation).bind fun _ => .pure _
  · cases t with
    | none => exact consumes_comparison h
    | some t => exact absurd rfl hno

theorem consumes_disjunctionOf (h : ∀ g, Consumes n (inner g)) :
    Consumes (n + 1) (disjunctionOf inner) :=
  consumes_leftChain (consumes_leftChain (consumes_negation h) rfl) rfl

theorem consumes_conditional (h : ∀ g, Consumes n (inner g)) :
    Consumes (n + 1) (conditional inner) := by
  refine Reads.line.bind fun _ => (consumes_disjunctionOf h).bind fun _ =>
    .iterate (fun _ => .accept_bind_of (Nat.le_refl _) ?condition (.stop _)) _
  case condition =>
    exact (consumes_disjunctionOf h).of_succ.bind fun _ => .accept_bind
      ((h .expression).bind fun _ => (ReadsTo.pure _).bind fun _ =>
        Reads.line.bind fun _ => .pure _)
      ((ReadsTo.pure _).bind fun _ => Reads.line.bind fun _ => .pure _)

end Levels

/-! ## Entries -/

theorem consumes_within (g : Goal) : Consumes n (within g) := by
  refine .recursive (fun n inner h i => ?_) g
  cases i with
  | expression => exact consumes_conditional h
  | negation => exact consumes_negation h
  | signed => exact consumes_signed h false

theorem consumes_expression : Consumes n expression :=
  consumes_within .expression

theorem consumes_disjunction : Consumes n disjunction :=
  (consumes_disjunctionOf consumes_within).of_succ

theorem reads_tuple : Reads n tuple :=
  reads_tupleOf consumes_expression false

theorem reads_assignable (e : Located) : Reads n (assignable e) :=
  .ite (.pure _) (.failAt _ (by simp))

theorem consumes_targetName : Consumes n targetName :=
  Consumes.expectName.bind fun _ => (reads_assignable _).bind fun _ => .pure _

theorem reads_target (members : Bool) : Reads n (target members) :=
  (reads_tupleOf (consumes_primary consumes_within members).of_succ false).bind fun _ =>
    (reads_assignable _).bind fun _ => .pure _

end Grammar
end Template
end LiquidMarkdown
