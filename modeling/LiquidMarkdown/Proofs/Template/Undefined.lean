import LiquidMarkdown.Template.Undefined

/-!
# Calculating with an undefined value

An expression that is built on an undefined value goes on with it through most operations, and ends
at the first one that fails.  This file defines:

* `Undefined.Expression` — what can be built on one undefined value, and `Undefined.eval`, its
  value;
* `Expression.operations` — the operations of an expression in the order in which they are done;
* `Operation.keeps` — the operations that give the undefined value back (`apply_eq_same_iff`).

Evaluation goes through the operations one by one (`eval_eq_foldl`), which gives the main result,
`Undefined.eval_eq_same_iff`: the undefined value comes out just in case each operation gives it
back.
-/

namespace LiquidMarkdown
namespace Undefined

/-! ## Expressions -/

/-- What is done with the undefined value that an expression has.  It has no part of its own under
the name of an attribute. -/
inductive Step where
  | member (name : Text) (foreign : Part.ofName? name = none)
  | item (key : Option Datum)
  | call (args : List (Option Datum))
  /-- A plus or minus sign before it. -/
  | sign
  /-- An operator between it and an integer, which stands on the left if the operator is reflected.
  -/
  | withInteger (op : Arithmetic) (isReflected : Bool) (n : Int)

/-- What a step does with the value. -/
def Step.operation : Step → Operation
  | member name _ => .attribute name
  | item key => .item key
  | call args => .call args
  | sign => .measure
  | withInteger op isReflected n => .arithmetic op isReflected (some (.number n 0))

/-- An expression on one undefined value. -/
inductive Expression where
  | object
  | step (e : Expression) (s : Step)
  | between (op : Arithmetic) (e f : Expression)

/-- What comes of an operation on what came before: only the undefined value itself goes on. -/
def follow (u : Undefined) (r : Except Failure Yield) (o : Operation) : Except Failure Yield :=
  match r with
  | .ok .same => u.apply o
  | r => r

/-- The value of an expression; the left side of an operator comes before the right side. -/
def eval (u : Undefined) : Expression → Except Failure Yield
  | .object => .ok .same
  | .step e s => u.follow (u.eval e) s.operation
  | .between op e f => match u.eval e with
      | .ok .same => u.follow (u.eval f) (.arithmetic op false none)
      | r => r

/-- The operations of an expression in the order in which they are done. -/
def Expression.operations : Expression → List Operation
  | object => []
  | step e s => e.operations ++ [s.operation]
  | between op e f => e.operations ++ (f.operations ++ [.arithmetic op false none])

/-! ## Operations -/

/-- Does the operation give an undefined value back? -/
def Operation.keeps : Operation → Bool
  | .arithmetic op _ _ => op = .add || op = .sub || op = .mul
  | .item _ | .call _ => true
  | .attribute name => (Part.ofName? name).isNone && !isReserved name
  | .measure | .equals _ | .differs _ | .view _ => false

/-- The failure of an operation that fails. -/
def failure (u : Undefined) : Operation → Failure
  | .attribute name => .noAttribute name
  | _ => .undefined u.message

theorem apply_eq_same_iff (u : Undefined) (o : Operation) : u.apply o = .ok .same ↔ o.keeps := by
  cases o with
  | arithmetic op isReflected other =>
      rw [apply, compute.eq_def, Operation.keeps]
      split <;> simp_all
  | «attribute» name =>
      rw [apply, Operation.keeps]
      cases Part.ofName? name with
      | some p => simp
      | none => cases isReserved name <;> simp
  | measure | equals _ | differs _ | call _ | item _ | view _ => simp [apply, Operation.keeps]

/-- A step gives the undefined value back or fails. -/
theorem apply_operation (u : Undefined) (s : Step) :
    u.apply s.operation =
      if s.operation.keeps then .ok .same else .error (u.failure s.operation) := by
  cases s with
  | member name foreign =>
      simp only [Step.operation, apply, foreign, Operation.keeps, failure]
      cases isReserved name <;> simp
  | item | call | sign => rfl
  | withInteger op isReflected n => cases op <;> cases isReflected <;> rfl

/-- So does an operator between two values that are the same undefined one. -/
theorem apply_arithmetic_none (u : Undefined) (op : Arithmetic) :
    u.apply (.arithmetic op false none) =
      if (Operation.arithmetic op false none).keeps then .ok .same
      else .error (u.failure (.arithmetic op false none)) := by
  cases op <;> rfl

theorem apply_of_mem_operations (u : Undefined) {e : Expression} {o : Operation}
    (h : o ∈ e.operations) :
    u.apply o = if o.keeps then .ok .same else .error (u.failure o) := by
  induction e with
  | object => cases h
  | step e s ih =>
      rcases List.mem_append.1 h with h | h
      · exact ih h
      · rw [List.mem_singleton.1 h, apply_operation]
  | between op e f ihe ihf =>
      rcases List.mem_append.1 h with h | h
      · exact ihe h
      · rcases List.mem_append.1 h with h | h
        · exact ihf h
        · rw [List.mem_singleton.1 h, apply_arithmetic_none]

/-! ## Evaluation -/

theorem foldl_follow_of_ne (u : Undefined) {r : Except Failure Yield} (h : r ≠ .ok .same)
    (os : List Operation) : os.foldl u.follow r = r := by
  induction os with
  | nil => rfl
  | cons o os ih =>
      have hstay : u.follow r o = r := by
        unfold follow
        split
        · exact absurd rfl h
        · rfl
      rw [List.foldl_cons, hstay, ih]

/-- An expression is evaluated by its operations one after another. -/
theorem eval_eq_foldl (u : Undefined) (e : Expression) :
    u.eval e = e.operations.foldl u.follow (.ok .same) := by
  induction e with
  | object => rfl
  | step e s ih =>
      rw [eval, Expression.operations, List.foldl_append, ← ih, List.foldl_cons, List.foldl_nil]
  | between op e f ihe ihf =>
      rw [eval, Expression.operations, List.foldl_append, ← ihe]
      -- Where the left side fails, the right side is not evaluated.
      split
      · next h => rw [h, List.foldl_append, ← ihf, List.foldl_cons, List.foldl_nil]
      · next h => rw [foldl_follow_of_ne u h]

/-- Operations that keep the undefined value or fail are done up to the first that fails. -/
theorem foldl_follow (u : Undefined) {os : List Operation}
    (h : ∀ o ∈ os, u.apply o = if o.keeps then .ok .same else .error (u.failure o)) :
    os.foldl u.follow (.ok .same) = match os.find? (!·.keeps) with
      | none => .ok .same
      | some o => .error (u.failure o) := by
  induction os with
  | nil => rfl
  | cons o os ih =>
      have hfirst : u.follow (.ok .same) o = _ := h o List.mem_cons_self
      rw [List.foldl_cons, hfirst, List.find?_cons]
      cases o.keeps with
      | true => exact ih fun o' ho' => h o' (List.mem_cons_of_mem o ho')
      | false => exact foldl_follow_of_ne u (by simp) os

/-- An expression on an undefined value has this value just in case each of its operations is an
addition, a subtraction, a multiplication, a call, a look-up by a key, or one by a name that is not
reserved; otherwise the first one that is none of these fails.  A name leads back to the value just
in case it is not reserved and names no part of it. -/
theorem eval_eq_same_iff (u : Undefined) (e : Expression) :
    (u.eval e = .ok .same ↔ ∀ o ∈ e.operations, o.keeps) ∧
      (u.eval e = match e.operations.find? (!·.keeps) with
        | none => .ok .same
        | some o => .error (u.failure o)) ∧
      ∀ name, u.apply (.attribute name) = .ok .same ↔
        Part.ofName? name = none ∧ isReserved name = false := by
  have heval := (u.eval_eq_foldl e).trans (u.foldl_follow fun _ => u.apply_of_mem_operations)
  refine ⟨?_, heval, fun name => ?_⟩
  · rw [heval]
    cases hfind : e.operations.find? (!·.keeps) with
    | none =>
        rw [List.find?_eq_none] at hfind
        simpa using hfind
    | some o =>
        have hmem := List.mem_of_find?_eq_some hfind
        have hlost := List.find?_some hfind
        refine iff_of_false (by simp) fun hall => ?_
        simp [hall o hmem] at hlost
  · rw [apply_eq_same_iff, Operation.keeps]
    simp

/-- The sign on the right of the sum fails, and the quotient is not reached. -/
example (u : Undefined) :
    u.eval (.between .div .object (.between .add (.step .object (.withInteger .mul true 2))
      (.step .object .sign))) = .error (.undefined u.message) :=
  rfl

end Undefined
end LiquidMarkdown
