import LiquidMarkdown.Proofs.Template.Lexing
import LiquidMarkdown.Proofs.Template.ProgressExpression
import LiquidMarkdown.Template.Construct

/-!
# Statements make progress

The bodies of a statement are read behind the end of its tag, with fewer tokens than stand around
it.  So the contents of a template come to no stop (`reads_template`).  The scanner closes its lists
(`closed_tokens`), and whatever is wrong with a source is wrong with its template
(`parse_ne_stalled`): the stops that `Parse.iterate` and `Parse.recursive` have in place of a bound
are never come to.
-/

namespace LiquidMarkdown
namespace Template
namespace Grammar

open Parse

variable {n : Nat}

theorem reads_filters_within (operand : Option Located) : Reads n (filters within operand) :=
  (reads_filters consumes_within operand).of_succ

/-! ## Liquid tags -/

theorem reads_assignment : Reads n assignment :=
  Reads.advance.bind fun _ => consumes_targetName.bind fun _ => (Consumes.expect _).bind fun _ =>
    consumes_expression.bind fun _ => .pure _

theorem reads_counter : Reads n counter :=
  Reads.advance.bind fun _ => Consumes.expectName.bind fun _ => .pure _

theorem reads_echo : Reads n echo :=
  Reads.advance.bind fun _ => consumes_expression.bind fun _ => .pure _

theorem reads_cycle : Reads n cycle := by
  have hrest (first : Located) : Reads n (iterate (fun (values : List Expr) => do
      if ← accept (.operator .comma) then return .inl (values ++ [(← expression).expr])
      else return .inr values) [first.expr] >>= fun values =>
        pure (Stmt.output [.tuple values .load])) :=
    (Reads.iterate (fun _ => .accept_bind (consumes_expression.bind fun _ => .pure _) (.stop _))
      _).bind fun _ => .pure _
  exact Reads.advance.bind fun _ => consumes_expression.bind fun group =>
    .accept_bind (consumes_expression.bind hrest) ((ReadsTo.pure group).bind hrest)

theorem reads_partialObject : Reads n partialObject := by
  have htakes : Reads n takesObject :=
    .accept_bind (.pure _) (ReadsTo.accept _).reads
  exact htakes.bind fun _ => .ite
    (consumes_expression.bind fun _ => .accept_bind
      (Consumes.expectName.bind fun _ => .pure _) (.pure _))
    (.pure _)

theorem reads_partialCall (function : Text) : Reads n (partialCall function) := by
  refine Reads.advance.bind fun _ => consumes_expression.bind fun _ =>
    reads_partialObject.bind fun _ => (Reads.iterate (fun _ => ?round) _).bind fun _ => .pure _
  case round =>
    exact .accept_bind
      (Consumes.expectName.bind fun _ => (Consumes.expect _).bind fun _ =>
        consumes_expression.bind fun _ => .pure _)
      (.stop _)

theorem reads_layout : Reads n layout :=
  Reads.advance.bind fun _ => consumes_expression.bind fun _ => .pure _

/-! ## Statements without a body -/

theorem reads_parameters : Reads n parameters := by
  refine (Consumes.expect _).bind fun _ => (Reads.iterate (fun _ => ?round) _).bind fun _ =>
    (Consumes.expect _).bind fun _ => .pure _
  case round =>
    exact .stopAt _ <| .expectUnless _ <|
      consumes_targetName.bind fun _ => .accept_bind (consumes_expression.bind fun _ => .pure _) <|
        .ite (.pure _) (.fail (by simp))

theorem reads_print : Reads n print := by
  refine Reads.advance.bind fun _ => (Reads.iterate (fun _ => ?round) _).bind fun _ => .pure _
  case round =>
    exact .stopAt _ <| .expectUnless _ <|
      consumes_expression.bind fun _ => .pure _

theorem reads_evaluate : Reads n evaluate :=
  Reads.advance.bind fun _ => reads_tuple.bind fun _ => .pure _

theorem reads_inherit : Reads n inherit :=
  Reads.advance.bind fun _ => consumes_expression.bind fun _ => .pure _

theorem reads_context? : Reads n context? := by
  have hsaid {k : Token.Kind} (t : Text) : ReadsAt k n (fun _ => False) (peek >>= fun k' =>
      if (Want.word "context").accepts k' then
        advance >>= fun _ => advance >>= fun _ => pure (some (decide (t = ("with" : Text))))
      else pure none) :=
    .peek_bind fun _ => ReadsTo.readsAt <| .ite
      (Reads.advance.bind fun _ => Reads.advance.bind fun _ => .pure _) (.pure _)
  refine ReadsTo.kind_bind fun k => ?_
  dsimp only
  split
  · exact .ite (hsaid _) (ReadsTo.pure none).readsAt
  · exact .ite (hsaid _) (ReadsTo.pure none).readsAt
  · exact (ReadsTo.pure none).readsAt

theorem reads_nameContext? : Reads n nameContext? :=
  (Reads.sees _).bind fun _ => .ite reads_context? (.pure _)

theorem reads_ignoreMissing : Reads n ignoreMissing :=
  .sees_bind (fun _ _ => .peek_bind fun _ => ReadsTo.readsAt <| .ite
    (Reads.advance.bind fun _ => Reads.advance.bind fun _ => .pure _) (.pure _)) (.pure _)

theorem reads_insert : Reads n insert :=
  Reads.advance.bind fun _ => consumes_expression.bind fun _ => reads_ignoreMissing.bind fun _ =>
    reads_nameContext?.bind fun _ => .pure _

theorem reads_load : Reads n load :=
  Reads.advance.bind fun _ => consumes_expression.bind fun _ => (Consumes.expect _).bind fun _ =>
    consumes_targetName.bind fun _ => reads_nameContext?.bind fun _ => .pure _

theorem consumes_loadedName : Consumes n loadedName :=
  consumes_targetName.bind fun _ => .check (.failAt _ (by simp)) <|
    .accept_bind (consumes_targetName.bind fun _ => .pure _) (.pure _)

theorem reads_loadNames : Reads n loadNames := by
  refine Reads.advance.bind fun _ => consumes_expression.bind fun _ =>
    (Consumes.expect _).bind fun _ =>
    (Reads.iterate (fun names => ?round) _).bind fun _ => .pure _
  refine .expectUnless _ <| (Reads.sees _).bind fun _ => .expectUnless _ <|
    reads_context?.bind fun said => ?_
  cases said with
  | some b => exact .stop _
  | none =>
      refine consumes_loadedName.bind fun name => reads_context?.bind fun said => ?_
      cases said with
      | some b => exact .pure _
      | none => exact (Reads.sees _).bind fun _ => .ite (.pure _) (.pure _)

theorem reads_lone (s : Stmt) : Reads n (lone s) :=
  Reads.advance.bind fun _ => .pure s

/-! ## Statements with a body -/

section Bodies

variable {body : Body}

theorem reads_lineTags (h : ∀ ends take, Consumes n (body ends take)) : Reads n (lineTags body) :=
  Reads.advance.bind fun _ => (h _ _).bind fun _ => .pure _

theorem reads_loop (h : ∀ ends take, Consumes n (body ends take)) : Reads n (loop body) := by
  have hrest (target iterable : Expr) (test : Option Expr) : Reads n
      (accept (.word "recursive") >>= fun isRecursive =>
        body ["endfor", "else"] false >>= fun inner =>
        advance >>= fun closing =>
          if (Want.word "endfor").accepts closing.kind = true then
            pure [] >>= fun alternative =>
              pure (Stmt.loop target iterable inner alternative test isRecursive)
          else body ["endfor"] true >>= fun alternative =>
            pure (Stmt.loop target iterable inner alternative test isRecursive)) :=
    (ReadsTo.accept _).reads.bind fun _ => (h _ _).bind fun _ => Reads.advance.bind fun _ =>
      .ite ((ReadsTo.pure _).bind fun _ => .pure _) ((h _ _).bind fun _ => .pure _)
  exact Reads.advance.bind fun _ => (reads_target false).bind fun _ =>
    (Consumes.expect _).bind fun _ =>
    (reads_tupleOf consumes_disjunction false).bind fun _ => .accept_bind
      (consumes_expression.bind fun _ => (ReadsTo.pure _).bind fun _ => hrest _ _ _)
      ((ReadsTo.pure _).bind fun _ => hrest _ _ _)

theorem consumes_condition (h : ∀ ends take, Consumes n (body ends take)) :
    Consumes n (condition body) :=
  (reads_tupleOf consumes_disjunction false).bind fun _ => (h _ _).bind fun _ => .pure _

theorem reads_branch (h : ∀ ends take, Consumes n (body ends take)) : Reads n (branch body) := by
  refine Reads.advance.bind fun _ => (consumes_condition h).bind fun _ =>
    .iterate (fun _ => Reads.advance.bind fun _ => .ite ?elseIf (.ite ?otherwise (.stop _))) _
  case elseIf => exact (consumes_condition h).bind fun _ => .pure _
  case otherwise => exact (h _ _).bind fun _ => .pure _

theorem reads_assignTo (h : ∀ ends take, Consumes n (body ends take)) : Reads n (assignTo body) :=
  Reads.advance.bind fun _ => (reads_target true).bind fun _ => .accept_bind
    (reads_tuple.bind fun _ => .pure _)
    ((reads_filters_within none).bind fun _ => (h _ _).bind fun _ => .pure _)

theorem reads_bind (h : ∀ ends take, Consumes n (body ends take)) : Reads n (bind body) := by
  refine Reads.advance.bind fun _ => (Reads.iterate (fun _ => ?round) _).bind fun _ =>
    (h _ _).bind fun _ => .pure _
  case round =>
    exact .stopAt _ <| .expectUnless _ <|
      (reads_target false).bind fun _ => (Consumes.expect _).bind fun _ =>
        consumes_expression.bind fun _ => .pure _

theorem reads_escaping (h : ∀ ends take, Consumes n (body ends take)) : Reads n (escaping body) :=
  Reads.advance.bind fun _ => consumes_expression.bind fun _ => (h _ _).bind fun _ => .pure _

theorem reads_block (h : ∀ ends take, Consumes n (body ends take)) : Reads n (block body) := by
  refine Reads.advance.bind fun _ => Consumes.expectName.bind fun _ =>
    (ReadsTo.accept _).reads.bind fun _ => (ReadsTo.accept _).reads.bind fun _ =>
    (Reads.sees _).bind fun _ => .check (.fail (by simp)) ?body
  case body =>
    exact (h _ _).bind fun _ => .check (.fail (by simp)) <|
      (ReadsTo.accept _).reads.bind fun _ => .pure _

theorem reads_define (h : ∀ ends take, Consumes n (body ends take)) : Reads n (define body) :=
  Reads.advance.bind fun _ => consumes_targetName.bind fun _ => reads_parameters.bind fun _ =>
    (h _ _).bind fun _ => .pure _

theorem reads_callBlock (h : ∀ ends take, Consumes n (body ends take)) :
    Reads n (callBlock body) := by
  refine Reads.advance.bind fun t => (Reads.sees _).bind fun _ =>
    .ite (reads_parameters.bind fun _ => ?parenthesised) ((ReadsTo.pure _).bind fun _ => ?bare)
  case parenthesised | bare =>
    refine consumes_expression.bind fun e => ?_
    split
    · exact (h _ _).bind fun _ => .pure _
    · exact .failAt _ (by simp)

theorem reads_filterBlock (h : ∀ ends take, Consumes n (body ends take)) :
    Reads n (filterBlock body) :=
  Reads.advance.bind fun _ => (consumes_filterStep consumes_within none).of_succ.bind fun _ =>
    (reads_filters_within _).bind fun _ => (h _ _).bind fun _ => .pure _

/-! ## All statements -/

theorem reads_statementRules (h : ∀ ends take, Consumes n (body ends take)) :
    ∀ r ∈ statementRules body, Reads n r.2 := by
  simp only [statementRules, List.forall_mem_cons, List.not_mem_nil, false_implies, implies_true,
    and_true]
  exact ⟨reads_loop h, reads_branch h, reads_block h, reads_inherit, reads_print, reads_define h,
    reads_insert, reads_loadNames, reads_load, reads_assignTo h, reads_bind h, reads_escaping h,
    reads_callBlock h, reads_filterBlock h, reads_assignment, reads_counter, reads_counter,
    reads_echo, reads_cycle, reads_partialCall _, reads_partialCall _, reads_layout,
    reads_lineTags h, reads_lone _, reads_lone _, reads_evaluate⟩

end Bodies

/-! ## Statements and their bodies -/

section Contents

theorem openBlock_ne_stalled (c : Context) (tag : Option Text) : c.openBlock tag ≠ .stalled := by
  simp [Context.openBlock]

variable {bodyIn : Context → Body}

theorem reads_statement (h : ∀ c ends take, Consumes n (bodyIn c ends take)) (c : Context) :
    Reads n (statement bodyIn c) := by
  refine Reads.current.bind fun t => ?_
  split
  · next name _ =>
      split
      · next rule hrule =>
          obtain ⟨before, after, hrules, -⟩ := List.lookup_eq_some_iff.1 hrule
          refine reads_statementRules (h { c with tags := name :: c.tags }) (name, rule) ?_
          rw [hrules]
          exact List.mem_append_right _ List.mem_cons_self
      · exact .failAt _ (openBlock_ne_stalled _ _)
  · exact .failAt _ (by simp)

/-- Bodies are read behind the delimiter of a statement. -/
theorem reads_contents (h : ∀ c ends take, Consumes n (bodyIn c ends take)) (c : Context)
    (ends : Option (List Text)) : Reads n (contents bodyIn c ends) := by
  refine .iterate (fun collected => ReadsTo.kind_bind fun k => ?_) _
  split
  · exact (ReadsTo.stop _).readsAt
  · exact .advance_bind (by simp) fun _ => .pure _
  · exact .advance_bind (by simp) fun _ => reads_tuple.bind fun _ =>
      (Consumes.expect _).bind fun _ => .pure _
  · next heof _ _ =>
      refine .advance_bind (fun hk => heof hk) fun _ => Reads.kind.bind fun _ => .ite (.pure _) ?_
      exact (reads_statement h c).bind fun _ => (Consumes.expect _).bind fun _ => .pure _

end Contents

section Inner

variable {inner : Context × Option (List Text) → Parse (List Stmt)}

/-- The end of the tag is taken before what stands behind it is read. -/
theorem consumes_bodyOf (h : ∀ at_, Reads n (inner at_)) (c : Context) (ends : List Text)
    (take : Bool) : Consumes (n + 1) (bodyOf inner c ends take) := by
  refine (ReadsTo.accept _).reads.bind fun _ => (Consumes.expect _).bind_below fun _ =>
    (h _).bind fun _ => Reads.kind.bind fun _ => .check (.fail (openBlock_ne_stalled _ _)) ?_
  exact .check .advance (.pure _)

theorem reads_bodyRule (h : ∀ at_, Reads n (inner at_)) (at_ : Context × Option (List Text)) :
    Reads (n + 1) (bodyRule inner at_) :=
  reads_contents (consumes_bodyOf h) at_.1 at_.2

end Inner

theorem reads_template : Reads n template :=
  Reads.bind (.recursive (fun _ _ => reads_bodyRule) _) fun _ => .pure _

end Grammar

/-! ## Sources -/

open Parse

theorem closed_closeTokens {ts : List Token} (h : ∀ t ∈ ts, t.kind ≠ .fault .stalled) :
    Closed (closeTokens ts) := by
  unfold closeTokens
  split
  · next n c hlast => exact ⟨⟨_, hlast, .inr ⟨c, rfl⟩⟩, h⟩
  · next t _ _ =>
      refine ⟨⟨⟨t.line, .eof⟩, by simp, .inl rfl⟩, fun u hu => ?_⟩
      rcases List.mem_append.1 hu with hu | hu
      · exact h u hu
      · simp [List.mem_singleton.1 hu]
  · refine ⟨⟨⟨1, .eof⟩, rfl, .inl rfl⟩, fun u hu => ?_⟩
    simp [List.mem_singleton.1 hu]

theorem closed_tokens (source : Text) : Closed (tokens source) :=
  closed_closeTokens fun _ ht =>
    have ⟨_, _, hstep⟩ := Cursor.exists_step_of_mem_scan ht
    Cursor.ne_stalled_of_mem_step hstep

/-- Whatever is wrong with a source is wrong with its template: the parser never comes to a stop of
its own. -/
theorem parse_ne_stalled {source : Text} {p : Problem} (h : parse source = .error p) :
    p.cause ≠ .stalled :=
  Reads.run_ne_stalled (fun _ => Grammar.reads_template) (closed_tokens _) h

end Template
end LiquidMarkdown
