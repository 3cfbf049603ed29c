import LiquidMarkdown.Text.Basic

/-!
# Template trees

The syntax tree of a template: data, printed expressions and statements.  This file defines:

* `Constant`, `Usage`, `BinaryOperator`, `UnaryOperator`, `CompareOperator` — the leaves;
* `Arguments` — the arguments of a call, a filter or a test;
* `Expr` — expressions, and `Expr.kindName`, the word for an expression in messages;
* `Stmt` — statements;
* `Template` — a whole template.
-/

namespace LiquidMarkdown
namespace Template

/-! ## Leaves -/

/-- A literal value; a floating-point number is its 64-bit pattern. -/
inductive Constant where
  | none
  | bool (b : Bool)
  | integer (n : Nat)
  | float (bits : Nat)
  | string (t : Text)
  deriving DecidableEq, Repr

/-- What a name, an item or an attribute is used for. -/
inductive Usage where
  | load
  | store
  | parameter
  deriving DecidableEq, Repr

inductive UnaryOperator where
  | not
  | negate
  | plus
  deriving DecidableEq, Repr

inductive BinaryOperator where
  | add
  | sub
  | mul
  | div
  | floorDiv
  | mod
  | pow
  | and
  | or
  deriving DecidableEq, Repr

inductive CompareOperator where
  | eq
  | ne
  | lt
  | le
  | gt
  | ge
  | isIn
  | notIn
  deriving DecidableEq, Repr

/-! ## Expressions -/

/-- The arguments of a call: by position, by keyword, and the two that are unpacked. -/
structure Arguments (ε : Type) where
  positional : List ε
  keyword : List (Text × ε)
  unpacked : Option ε
  unpackedKeywords : Option ε

/-- No arguments. -/
def Arguments.empty {ε : Type} : Arguments ε :=
  ⟨[], [], none, none⟩

inductive Expr where
  /-- Text outside all delimiters. -/
  | data (t : Text)
  | name (id : Text) (usage : Usage)
  /-- A name inside a namespace, as the target of an assignment. -/
  | member (space name : Text)
  | constant (c : Constant)
  | tuple (items : List Expr) (usage : Usage)
  | list (items : List Expr)
  | dict (entries : List (Expr × Expr))
  | conditional (test yes : Expr) (no : Option Expr)
  /-- A filter; the one of a filter block has no operand. -/
  | filter (operand : Option Expr) (name : Text) (args : Arguments Expr)
  | test (operand : Expr) (name : Text) (args : Arguments Expr)
  | call (function : Expr) (args : Arguments Expr)
  | item (operand index : Expr) (usage : Usage)
  | property (operand : Expr) (name : Text) (usage : Usage)
  | slice (start stop step : Option Expr)
  | concat (operands : List Expr)
  | compare (first : Expr) (rest : List (CompareOperator × Expr))
  | binary (op : BinaryOperator) (left right : Expr)
  | unary (op : UnaryOperator) (operand : Expr)

namespace Expr

/-- The word for the kind of an expression in messages. -/
def kindName : Expr → Text
  | data _ => "templatedata"
  | name .. => "name"
  | member .. => "nsref"
  | constant _ => "const"
  | tuple .. => "tuple"
  | list _ => "list"
  | dict _ => "dict"
  | conditional .. => "condexpr"
  | filter .. => "filter"
  | test .. => "test"
  | call .. => "call"
  | item .. => "getitem"
  | property .. => "getattr"
  | slice .. => "slice"
  | concat _ => "concat"
  | compare .. => "compare"
  | binary op .. => match op with
      | .add => "add"
      | .sub => "sub"
      | .mul => "mul"
      | .div => "div"
      | .floorDiv => "floordiv"
      | .mod => "mod"
      | .pow => "pow"
      | .and => "and"
      | .or => "or"
  | unary op _ => match op with
      | .not => "not"
      | .negate => "neg"
      | .plus => "pos"

/-- Names that stand for constants. -/
def constantNames : List Text :=
  ["true", "false", "none", "True", "False", "None"]

mutual

/-- Can the expression stand on the left of an assignment? -/
def isTarget : Expr → Bool
  | name id _ => id ∉ constantNames
  | member .. => true
  | tuple items _ => areTargets items
  | _ => false

def areTargets : List Expr → Bool
  | [] => true
  | e :: es => isTarget e && areTargets es

end

mutual

/-- A target with the given use of the names in it. -/
def withUsage (u : Usage) : Expr → Expr
  | name id _ => name id u
  | tuple items _ => tuple (withUsageAll u items) u
  | e => e

def withUsageAll (u : Usage) : List Expr → List Expr
  | [] => []
  | e :: es => withUsage u e :: withUsageAll u es

end

end Expr

/-! ## Statements -/

inductive Stmt where
  /-- Data and printed expressions, in order. -/
  | output (parts : List Expr)
  /-- The template that this one fills in. -/
  | inherit (template : Expr)
  /-- A loop with an optional filter on its items; the alternative is for no items. -/
  | loop (target iterable : Expr) (body alternative : List Stmt) (test : Option Expr)
      (isRecursive : Bool)
  | branch (test : Expr) (body : List Stmt) (elseIfs : List (Expr × List Stmt))
      (alternative : List Stmt)
  /-- A macro; the defaults belong to the last parameters. -/
  | define (name : Text) (params defaults : List Expr) (body : List Stmt)
  /-- A call that gets the body as its caller. -/
  | callBlock (call : Expr) (params defaults : List Expr) (body : List Stmt)
  | filterBlock (filter : Expr) (body : List Stmt)
  /-- Names that are bound in the body only. -/
  | bind (targets values : List Expr) (body : List Stmt)
  /-- A named part that an inheriting template may replace. -/
  | block (name : Text) (body : List Stmt) (isScoped isRequired : Bool)
  | insert (template : Expr) (withContext ignoreMissing : Bool)
  | load (template : Expr) (withContext : Bool) (target : Text)
  | loadNames (template : Expr) (withContext : Bool) (names : List (Text × Option Text))
  /-- An expression evaluated for its effect. -/
  | evaluate (e : Expr)
  | assign (target value : Expr)
  | assignBlock (target : Expr) (filter : Option Expr) (body : List Stmt)
  | scope (body : List Stmt)
  /-- Settings that hold in the body only. -/
  | settings (options : List (Text × Expr)) (body : List Stmt)
  | continueLoop
  | breakLoop

end Template

/-- The syntax tree of a template. -/
structure Template where
  body : List Template.Stmt

end LiquidMarkdown
