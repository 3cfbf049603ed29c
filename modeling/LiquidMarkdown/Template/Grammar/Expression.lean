import LiquidMarkdown.Template.Grammar.Parse

/-!
# Expressions

The grammar of expressions, from loose to tight: conditional, `or`, `and`, `not`, comparison, sum,
concatenation, product, power, sign, and primary expressions with what may follow them.  Each level
is a function of the readers for what may stand inside it, `inner`, which are called only after a
token was taken; `Parse.recursive` ties the knot.  This file defines:

* `Located` — an expression and the line that messages about it give;
* `Goal` — the levels that are called again from within;
* the levels themselves, from `callArguments` to `conditional`;
* `expression`, `disjunction`, `tuple`, `target` — the entries.
-/

namespace LiquidMarkdown
namespace Template
namespace Grammar

open Parse

/-- An expression with its line. -/
structure Located where
  line : Nat
  expr : Expr

/-- The levels of the grammar that are called from within. -/
inductive Goal where
  | expression
  | negation
  /-- A sign and what it applies to, without filters. -/
  | signed

/-- Readers for what may stand inside an expression. -/
abbrev Inner := Goal → Parse Located

/-! ## Arguments -/

/-- Is the current token the first of a keyword argument? -/
def atKeyword : Parse Bool := do
  match ← kind with
  | .name _ => return (← peek) == .operator .assign
  | _ => return false

/-- One argument of a call, added to those before it.  Arguments by position come first, then those
by keyword and the unpacked sequence, the unpacked mapping last. -/
def argument (inner : Inner) (openLine : Nat) (args : Arguments Expr) :
    Parse (Arguments Expr) := do
  let ensure (ok : Bool) : Parse Unit := unless ok do failAt openLine .badArguments
  if ← sees (.operator .mul) then
    ensure (args.unpacked.isNone && args.unpackedKeywords.isNone)
    let _ ← advance
    return { args with unpacked := some (← inner .expression).expr }
  else if ← sees (.operator .pow) then
    ensure args.unpackedKeywords.isNone
    let _ ← advance
    return { args with unpackedKeywords := some (← inner .expression).expr }
  else if ← atKeyword then
    ensure args.unpackedKeywords.isNone
    let (_, key) ← expectName
    let _ ← advance
    let value ← inner .expression
    return { args with keyword := args.keyword ++ [(key, value.expr)] }
  else
    ensure (args.unpacked.isNone && args.unpackedKeywords.isNone && args.keyword.isEmpty)
    let value ← inner .expression
    return { args with positional := args.positional ++ [value.expr] }

/-- Arguments in parentheses, with commas between them and perhaps one behind the last. -/
def callArguments (inner : Inner) : Parse (Arguments Expr) := do
  let openToken ← expect (.operator .leftParen)
  let args ← iterate (fun ((args : Arguments Expr), (first : Bool)) => do
    if ← sees (.operator .rightParen) then return .inr args
    unless first do
      let _ ← expect (.operator .comma)
    if ← sees (.operator .rightParen) then return .inr args
    return .inl (← argument inner openToken.line args, false)) (Arguments.empty, true)
  let _ ← expect (.operator .rightParen)
  return args

/-- Arguments, if there is an opening parenthesis. -/
def optionalArguments (inner : Inner) : Parse (Arguments Expr) := do
  if ← sees (.operator .leftParen) then callArguments inner else return .empty

/-- A name with further names behind points. -/
def dottedName : Parse (Nat × Text) := do
  let (line, first) ← expectName
  iterate (fun name => do
    if ← accept (.operator .dot) then
      let (_, more) ← expectName
      return .inl (name ++ '.' :: more)
    else return .inr (line, name)) first

/-! ## Tuples -/

/-- Does a tuple end here? -/
def atTupleEnd : Parse Bool := do
  match ← kind with
  | .variableEnd | .blockEnd | .operator .rightParen => return true
  | _ => return false

/-- Items with commas between them: one item without a comma is that item itself.  A comma may stand
behind the last item only where the tag or a parenthesis ends.  No item at all is a tuple only
between parentheses. -/
def tupleOf (item : Parse Located) (parenthesised : Bool) : Parse Located := do
  let start ← line
  let (items, isTuple, last) ←
    iterate (fun ((items : List Located), (isTuple : Bool), (last : Nat)) => do
      unless items.isEmpty do
        let _ ← expect (.operator .comma)
      if ← atTupleEnd then return .inr (items, isTuple, last)
      let items := items ++ [← item]
      if ← sees (.operator .comma) then return .inl (items, true, ← line)
      else return .inr (items, isTuple, last)) ([], false, start)
  match items, isTuple with
  | e :: _, false => return e
  | [], false =>
      if parenthesised then return ⟨last, .tuple [] .load⟩
      else fail (.noExpression (← kind).describe)
  | items, true => return ⟨last, .tuple (items.map (·.expr)) .load⟩

/-! ## Primary expressions -/

/-- Items between brackets or braces that were opened, with commas between them and perhaps one
behind the last. -/
def itemsUntil {α : Type} (close : Operator) (item : Parse α) : Parse (List α) := do
  let items ← iterate (fun (items : List α) => do
    if ← sees (.operator close) then return .inr items
    unless items.isEmpty do
      let _ ← expect (.operator .comma)
    if ← sees (.operator close) then return .inr items
    return .inl (items ++ [← item])) []
  let _ ← expect (.operator close)
  return items

/-- A key and its value. -/
def entry (inner : Inner) : Parse (Expr × Expr) := do
  let key ← inner .expression
  let _ ← expect (.operator .colon)
  let value ← inner .expression
  return (key.expr, value.expr)

/-- Strings side by side are one string. -/
def moreStrings (first : Text) : Parse Text :=
  iterate (fun text => do
    match ← kind with
    | .string t =>
        let _ ← advance
        return .inl (text ++ t)
    | _ => return .inr text) first

/-- What a name stands for; with `members`, a name may be followed by a point and a member. -/
def nameExpr (members : Bool) (name : Text) : Parse Expr := do
  if name = ("true" : Text) || name = ("True" : Text) then return .constant (.bool true)
  else if name = ("false" : Text) || name = ("False" : Text) then return .constant (.bool false)
  else if name = ("none" : Text) || name = ("None" : Text) then return .constant .none
  else if members && (← sees (.operator .dot)) then
    let _ ← advance
    let (_, member) ← expectName
    return .member name member
  else return .name name .load

/-- A name, a literal, or something in brackets. -/
def primary (inner : Inner) (members : Bool) : Parse Located := do
  let t ← current
  match t.kind with
  | .name name =>
      let _ ← advance
      return ⟨t.line, ← nameExpr members name⟩
  | .string first =>
      let _ ← advance
      return ⟨t.line, .constant (.string (← moreStrings first))⟩
  | .integer n =>
      let _ ← advance
      return ⟨t.line, .constant (.integer n)⟩
  | .float bits =>
      let _ ← advance
      return ⟨t.line, .constant (.float bits)⟩
  | .operator .leftParen =>
      let _ ← advance
      let e ← tupleOf (inner .expression) true
      let _ ← expect (.operator .rightParen)
      return e
  | .operator .leftBracket =>
      let _ ← advance
      return ⟨t.line, .list (← itemsUntil .rightBracket (return (← inner .expression).expr))⟩
  | .operator .leftBrace =>
      let _ ← advance
      return ⟨t.line, .dict (← itemsUntil .rightBrace (entry inner))⟩
  | k => failAt t.line (.unexpected k.describe)

/-! ## What follows a primary expression -/

/-- An end of a slice, unless the slice or its subscript ends or goes on here. -/
def sliceEnd (inner : Inner) (stopAtColon : Bool) : Parse (Option Expr) := do
  match ← kind with
  | .operator .rightBracket | .operator .comma => return none
  | .operator .colon =>
      if stopAtColon then return none else return some (← inner .expression).expr
  | _ => return some (← inner .expression).expr

/-- The rest of a slice, from its first colon on. -/
def sliceFrom (inner : Inner) (start : Option Expr) : Parse Expr := do
  let _ ← expect (.operator .colon)
  let stop ← sliceEnd inner true
  if ← accept (.operator .colon) then return .slice start stop (← sliceEnd inner false)
  else return .slice start stop none

/-- A subscript: an expression or a slice. -/
def subscript (inner : Inner) : Parse Expr := do
  if ← sees (.operator .colon) then sliceFrom inner none
  else
    let e ← inner .expression
    if ← sees (.operator .colon) then sliceFrom inner (some e.expr) else return e.expr

/-- Subscripts between brackets, with commas between them; several are a tuple. -/
def subscripts (inner : Inner) : Parse Expr := do
  let items ← iterate (fun (items : List Expr) => do
    if ← sees (.operator .rightBracket) then return .inr items
    unless items.isEmpty do
      let _ ← expect (.operator .comma)
    return .inl (items ++ [← subscript inner])) []
  let _ ← expect (.operator .rightBracket)
  match items with
  | [e] => return e
  | es => return .tuple es .load

/-- A property after a point: a name or a number. -/
def property (line : Nat) (e : Expr) : Parse Located := do
  let t ← advance
  match t.kind with
  | .name name => return ⟨line, .property e name .load⟩
  | .integer n => return ⟨line, .item e (.constant (.integer n)) .load⟩
  | _ => failAt t.line .noNameOrNumber

/-- Properties, subscripts and calls. -/
def postfixes (inner : Inner) (e : Located) : Parse Located :=
  iterate (fun (e : Located) => do
    let t ← current
    match t.kind with
    | .operator .dot =>
        let _ ← advance
        return .inl (← property t.line e.expr)
    | .operator .leftBracket =>
        let _ ← advance
        return .inl ⟨t.line, .item e.expr (← subscripts inner) .load⟩
    | .operator .leftParen => return .inl ⟨t.line, .call e.expr (← callArguments inner)⟩
    | _ => return .inr e) e

/-- A filter behind its bar, or the name of a filter block's. -/
def filterStep (inner : Inner) (operand : Option Expr) : Parse Located := do
  let (line, name) ← dottedName
  return ⟨line, .filter operand name (← optionalArguments inner)⟩

/-- Filters, each behind a bar, applied from left to right. -/
def filters (inner : Inner) (operand : Option Located) : Parse (Option Located) :=
  iterate (fun (operand : Option Located) => do
    if ← accept (.operator .pipe) then
      return .inl (some (← filterStep inner (operand.map (·.expr))))
    else return .inr operand) operand

/-- May the current token begin the one argument of a test that has no parentheses? -/
def atBareArgument : Parse Bool := do
  match ← kind with
  | .name t => return t ∉ ([("else" : Text), ("or" : Text), ("and" : Text)] : List Text)
  | .string _ | .integer _ | .float _ => return true
  | .operator .leftBracket | .operator .leftBrace => return true
  | _ => return false

/-- The arguments of a test. -/
def testArguments (inner : Inner) : Parse (Arguments Expr) := do
  if ← sees (.operator .leftParen) then callArguments inner
  else if ← atBareArgument then
    if ← sees (.word "is") then fail .chainedTests
    let e ← postfixes inner (← primary inner false)
    return { (Arguments.empty : Arguments Expr) with positional := [e.expr] }
  else return .empty

/-- A test behind `is`, perhaps negated. -/
def test (inner : Inner) (e : Expr) : Parse Located := do
  let isToken ← advance
  let negated ← accept (.word "not")
  let (_, name) ← dottedName
  let t : Expr := .test e name (← testArguments inner)
  return ⟨isToken.line, if negated then .unary .not t else t⟩

/-- Filters, tests and calls. -/
def applications (inner : Inner) (e : Located) : Parse Located :=
  iterate (fun (e : Located) => do
    let t ← current
    match t.kind with
    | .operator .pipe => return .inl ((← filters inner (some e)).getD e)
    | .operator .leftParen => return .inl ⟨t.line, .call e.expr (← callArguments inner)⟩
    | _ =>
        if ← sees (.word "is") then return .inl (← test inner e.expr) else return .inr e) e

/-! ## Operators -/

/-- An expression under signs; filters and tests bind looser than a sign's operand. -/
def signed (inner : Inner) (withFilters : Bool) : Parse Located := do
  let t ← current
  let e ← match t.kind with
    | .operator .sub => do
        let _ ← advance
        pure ⟨t.line, .unary .negate (← inner .signed).expr⟩
    | .operator .add => do
        let _ ← advance
        pure ⟨t.line, .unary .plus (← inner .signed).expr⟩
    | _ => primary inner false
  let e ← postfixes inner e
  if withFilters then applications inner e else return e

/-- Operands with operators of one strength between them, grouped from the left. -/
def leftChain (operator? : Token.Kind → Option BinaryOperator) (operand : Parse Located) :
    Parse Located := do
  let start ← line
  let first ← operand
  iterate (fun ((left : Located), (last : Nat)) => do
    match operator? (← kind) with
    | none => return .inr left
    | some op =>
        let _ ← advance
        let right ← operand
        return .inl (⟨last, .binary op left.expr right.expr⟩, ← line)) (first, start)

/-- The operator that a word stands for. -/
def wordOperator? (word : Text) (op : BinaryOperator) : Token.Kind → Option BinaryOperator
  | .name t => if t = word then some op else none
  | _ => none

def powerOperator? : Token.Kind → Option BinaryOperator
  | .operator .pow => some .pow
  | _ => none

def productOperator? : Token.Kind → Option BinaryOperator
  | .operator .mul => some .mul
  | .operator .div => some .div
  | .operator .floorDiv => some .floorDiv
  | .operator .mod => some .mod
  | _ => none

def sumOperator? : Token.Kind → Option BinaryOperator
  | .operator .add => some .add
  | .operator .sub => some .sub
  | _ => none

/-- Powers, grouped from the left. -/
def power (inner : Inner) : Parse Located :=
  leftChain powerOperator? (signed inner true)

def product (inner : Inner) : Parse Located :=
  leftChain productOperator? (power inner)

/-- Operands joined as texts. -/
def concatenation (inner : Inner) : Parse Located := do
  let start ← line
  let first ← product inner
  let operands ← iterate (fun (operands : List Expr) => do
    if ← accept (.operator .tilde) then return .inl (operands ++ [(← product inner).expr])
    else return .inr operands) [first.expr]
  if operands.length = 1 then return first else return ⟨start, .concat operands⟩

def sum (inner : Inner) : Parse Located :=
  leftChain sumOperator? (concatenation inner)

/-- The comparison that begins at the current token. -/
def comparison? : Parse (Option CompareOperator) := do
  match ← kind with
  | .operator .eq => let _ ← advance; return some .eq
  | .operator .ne => let _ ← advance; return some .ne
  | .operator .lt => let _ ← advance; return some .lt
  | .operator .le => let _ ← advance; return some .le
  | .operator .gt => let _ ← advance; return some .gt
  | .operator .ge => let _ ← advance; return some .ge
  | _ =>
      if ← accept (.word "in") then return some .isIn
      else if ← sees (.word "not") then
        if Want.accepts (.word "in") (← peek) then
          let _ ← advance
          let _ ← advance
          return some .notIn
        else return none
      else return none

/-- A chain of comparisons. -/
def comparison (inner : Inner) : Parse Located := do
  let start ← line
  let first ← sum inner
  let (rest, last) ←
    iterate (fun ((rest : List (CompareOperator × Expr)), (last : Nat)) => do
      match ← comparison? with
      | none => return .inr (rest, last)
      | some op =>
          let e ← sum inner
          return .inl (rest ++ [(op, e.expr)], ← line)) ([], start)
  if rest.isEmpty then return first else return ⟨last, .compare first.expr rest⟩

def negation (inner : Inner) : Parse Located := do
  match ← accept? (.word "not") with
  | some t => return ⟨t.line, .unary .not (← inner .negation).expr⟩
  | none => comparison inner

def conjunction (inner : Inner) : Parse Located :=
  leftChain (wordOperator? "and" .and) (negation inner)

def disjunctionOf (inner : Inner) : Parse Located :=
  leftChain (wordOperator? "or" .or) (conjunction inner)

/-- An expression with a condition behind `if` and perhaps an alternative behind `else`. -/
def conditional (inner : Inner) : Parse Located := do
  let start ← line
  let first ← disjunctionOf inner
  iterate (fun ((yes : Located), (last : Nat)) => do
    if ← accept (.word "if") then
      let test ← disjunctionOf inner
      let no ← if ← accept (.word "else") then
          let e ← inner .expression
          pure (some e.expr)
        else pure none
      return .inl (⟨last, .conditional test.expr yes.expr no⟩, ← line)
    else return .inr yes) (first, start)

/-! ## The knot -/

/-- The levels that are called from within, in terms of themselves. -/
def rule (inner : Inner) : Inner
  | .expression => conditional inner
  | .negation => negation inner
  | .signed => signed inner false

/-- The readers for expressions inside expressions. -/
def within : Inner :=
  recursive rule

/-! ## Entries -/

/-- An expression. -/
def expression : Parse Located :=
  within .expression

/-- An expression that is not conditional. -/
def disjunction : Parse Located :=
  disjunctionOf within

/-- Expressions with commas between them. -/
def tuple : Parse Located :=
  tupleOf expression false

/-- Fail unless the expression can be assigned to. -/
def assignable (e : Located) : Parse Located := do
  if e.expr.isTarget then return e else failAt e.line (.notAssignable e.expr.kindName)

/-- A single name that is assigned to. -/
def targetName : Parse (Nat × Text) := do
  let (line, name) ← expectName
  let _ ← assignable ⟨line, .name name .store⟩
  return (line, name)

/-- What stands on the left of an assignment. -/
def target (members : Bool) : Parse Expr := do
  let e ← tupleOf (primary within members) false
  return (← assignable ⟨e.line, e.expr.withUsage .store⟩).expr

end Grammar
end Template
end LiquidMarkdown
