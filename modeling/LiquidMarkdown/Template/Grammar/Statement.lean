import LiquidMarkdown.Template.Grammar.LiquidTag
import LiquidMarkdown.Text.Blank

/-!
# Statements

The grammar of statements and of whole templates.  This file defines:

* the statements, from `loop` to `importNames`;
* `statementRules` — the statements by their first word;
* `Context` — the blocks that are open around a statement;
* `bodyRule` — data, printed expressions and statements up to a closing word;
* `template` — a whole template.
-/

namespace LiquidMarkdown
namespace Template
namespace Grammar

open Parse

/-! ## Loops and branches -/

/-- A loop, perhaps with a filter on its items and an alternative. -/
def loop (body : Body) : Parse Stmt := do
  let _ ← advance
  let target ← target false
  let _ ← expect (.word "in")
  let iterable ← tupleOf disjunction false
  let test ← if ← accept (.word "if") then
      let e ← expression
      pure (some e.expr)
    else pure none
  let isRecursive ← accept (.word "recursive")
  let inner ← body ["endfor", "else"] false
  let closing ← advance
  let alternative ← if Want.accepts (.word "endfor") closing.kind then pure []
    else body ["endfor"] true
  return .loop target iterable.expr inner alternative test isRecursive

/-- A condition and its statements. -/
def condition (body : Body) : Parse (Expr × List Stmt) := do
  let test ← tupleOf disjunction false
  return (test.expr, ← body ["elif", "else", "endif"] false)

/-- Conditions one after another and perhaps an alternative. -/
def branch (body : Body) : Parse Stmt := do
  let _ ← advance
  let (test, inner) ← condition body
  iterate (fun (elseIfs : List (Expr × List Stmt)) => do
    let t ← advance
    if Want.accepts (.word "elif") t.kind then return .inl (elseIfs ++ [← condition body])
    else if Want.accepts (.word "else") t.kind then
      return .inr (.branch test inner elseIfs (← body ["endif"] true))
    else return .inr (.branch test inner elseIfs [])) []

/-! ## Names and settings -/

/-- An assignment of a value or of a rendered body. -/
def assignTo (body : Body) : Parse Stmt := do
  let _ ← advance
  let target ← target true
  if ← accept (.operator .assign) then return .assign target (← tuple).expr
  else
    let filter ← filters within none
    return .assignBlock target (filter.map (·.expr)) (← body ["endset"] true)

/-- Names that are bound in a body only. -/
def bind (body : Body) : Parse Stmt := do
  let _ ← advance
  let (targets, values) ←
    iterate (fun ((targets : List Expr), (values : List Expr)) => do
      if ← sees .blockEnd then return .inr (targets, values)
      unless targets.isEmpty do
        let _ ← expect (.operator .comma)
      let target ← target false
      let _ ← expect (.operator .assign)
      let value ← expression
      return .inl (targets ++ [target.withUsage .parameter], values ++ [value.expr])) ([], [])
  return .bind targets values (← body ["endwith"] true)

/-- A setting for the escaping of what is printed. -/
def escaping (body : Body) : Parse Stmt := do
  let _ ← advance
  let value ← expression
  return .scope [.settings [("autoescape", value.expr)] (← body ["endautoescape"] true)]

/-! ## Blocks, macros and calls -/

/-- Is the statement blank data? -/
def isBlankOutput : Stmt → Bool
  | .output parts => parts.all fun
      | .data t => t.all Text.isBlank
      | _ => false
  | _ => false

/-- A named block; a required one holds blanks only. -/
def block (body : Body) : Parse Stmt := do
  let _ ← advance
  let (_, name) ← expectName
  let isScoped ← accept (.word "scoped")
  let isRequired ← accept (.word "required")
  if ← sees (.operator .sub) then fail .hyphenInBlockName
  let inner ← body ["endblock"] true
  if isRequired && !inner.all isBlankOutput then fail .requiredBlockContent
  let _ ← accept (.word name)
  return .block name inner isScoped isRequired

/-- Parameters in parentheses; once one has a default, all that follow have. -/
def parameters : Parse (List Expr × List Expr) := do
  let _ ← expect (.operator .leftParen)
  let (names, defaults) ←
    iterate (fun ((names : List Expr), (defaults : List Expr)) => do
      if ← sees (.operator .rightParen) then return .inr (names, defaults)
      unless names.isEmpty do
        let _ ← expect (.operator .comma)
      let (_, name) ← targetName
      let names := names ++ [Expr.name name .parameter]
      if ← accept (.operator .assign) then
        return .inl (names, defaults ++ [(← expression).expr])
      else if defaults.isEmpty then return .inl (names, defaults)
      else fail .defaultOrder) ([], [])
  let _ ← expect (.operator .rightParen)
  return (names, defaults)

/-- A macro. -/
def define (body : Body) : Parse Stmt := do
  let _ ← advance
  let (_, name) ← targetName
  let (names, defaults) ← parameters
  return .define name names defaults (← body ["endmacro"] true)

/-- A call that gets a body as its caller. -/
def callBlock (body : Body) : Parse Stmt := do
  let t ← advance
  let (names, defaults) ← if ← sees (.operator .leftParen) then parameters else pure ([], [])
  let e ← expression
  match e.expr with
  | .call .. => return .callBlock e.expr names defaults (← body ["endcall"] true)
  | _ => failAt t.line .noCall

/-- A body that goes through filters. -/
def filterBlock (body : Body) : Parse Stmt := do
  let _ ← advance
  let first ← filterStep within none
  let all ← filters within (some first)
  return .filterBlock (all.getD first).expr (← body ["endfilter"] true)

/-! ## Output and other templates -/

/-- Expressions that are printed, with commas between them. -/
def print : Parse Stmt := do
  let _ ← advance
  let parts ← iterate (fun (parts : List Expr) => do
    if ← sees .blockEnd then return .inr parts
    unless parts.isEmpty do
      let _ ← expect (.operator .comma)
    return .inl (parts ++ [(← expression).expr])) []
  return .output parts

/-- An expression evaluated for its effect. -/
def evaluate : Parse Stmt := do
  let _ ← advance
  return .evaluate (← tuple).expr

/-- The template that this one fills in. -/
def inherit : Parse Stmt := do
  let _ ← advance
  return .inherit (← expression).expr

/-- Whether another template sees the names of this one, if that is said. -/
def context? : Parse (Option Bool) := do
  let said (t : Text) : Parse (Option Bool) := do
    if Want.accepts (.word "context") (← peek) then
      let _ ← advance
      let _ ← advance
      return some (t = ("with" : Text))
    else return none
  match ← kind with
  | .name t | .string t =>
      if t = ("with" : Text) || t = ("without" : Text) then said t else return none
  | _ => return none

/-- The same, where only a name can say it. -/
def nameContext? : Parse (Option Bool) := do
  if ← sees .anyName then context? else return none

/-- Is it said that a missing template does not matter? -/
def ignoreMissing : Parse Bool := do
  if ← sees (.word "ignore") then
    if Want.accepts (.word "missing") (← peek) then
      let _ ← advance
      let _ ← advance
      return true
    else return false
  else return false

/-- Another template, rendered in this place. -/
def insert : Parse Stmt := do
  let _ ← advance
  let template ← expression
  let ignore ← ignoreMissing
  return .insert template.expr ((← nameContext?).getD true) ignore

/-- Another template under a name. -/
def load : Parse Stmt := do
  let _ ← advance
  let template ← expression
  let _ ← expect (.word "as")
  let (_, name) ← targetName
  return .load template.expr ((← nameContext?).getD false) name

/-- A name taken from another template, perhaps under another name. -/
def loadedName : Parse (Text × Option Text) := do
  let (line, name) ← targetName
  if name.head? = some '_' then failAt line .privateImport
  if ← accept (.word "as") then
    let (_, given) ← targetName
    return (name, some given)
  else return (name, none)

/-- Names taken from another template. -/
def loadNames : Parse Stmt := do
  let _ ← advance
  let template ← expression
  let _ ← expect (.word "import")
  let (names, withContext) ← iterate (fun (names : List (Text × Option Text)) => do
    unless names.isEmpty do
      let _ ← expect (.operator .comma)
    unless ← sees .anyName do
      let _ ← expect .anyName
    match ← context? with
    | some b => return .inr (names, b)
    | none =>
        let names := names ++ [← loadedName]
        match ← context? with
        | some b => return .inr (names, b)
        | none =>
            if ← sees (.operator .comma) then return .inl names
            else return .inr (names, false)) []
  return .loadNames template.expr withContext names

/-- A statement that is one word. -/
def lone (s : Stmt) : Parse Stmt := do
  let _ ← advance
  return s

/-! ## All statements -/

/-- The statements by their first word. -/
def statementRules (body : Body) : List (Text × Parse Stmt) :=
  [("for", loop body), ("if", branch body), ("block", block body), ("extends", inherit),
    ("print", print), ("macro", define body), ("include", insert), ("from", loadNames),
    ("import", load), ("set", assignTo body), ("with", bind body),
    ("autoescape", escaping body), ("call", callBlock body), ("filter", filterBlock body),
    ("assign", assignment), ("increment", counter), ("decrement", counter), ("echo", echo),
    ("cycle", cycle), ("render", partialCall "render"), ("liquid_include", partialCall "include"),
    ("layout", layout), ("liquid", lineTags body), ("break", lone .breakLoop),
    ("continue", lone .continueLoop), ("do", evaluate)]

/-- What is open around a statement, the innermost first. -/
structure Context where
  /-- The first words of the statements. -/
  tags : List Text
  /-- The words that close their bodies. -/
  ends : List (List Text)

/-- The problem of a tag, or of the end of the template, where blocks are open. -/
def Context.openBlock (c : Context) (tag : Option Text) : Problem.Cause :=
  let misnested := match tag with
    | some t => c.ends.any (·.contains t)
    | none => false
  .openBlock tag misnested (c.ends.headD []) c.tags.head?

/-- The statement at the current token. -/
def statement (bodyIn : Context → Body) (c : Context) : Parse Stmt := do
  let t ← current
  match t.kind with
  | .name name =>
      match (statementRules (bodyIn { c with tags := name :: c.tags })).lookup name with
      | some rule => rule
      | none => failAt t.line (c.openBlock (some name))
  | _ => failAt t.line .noTagName

/-- The statements so far, and the data and printed expressions behind them. -/
structure Collected where
  done : List Stmt
  parts : List Expr

/-- The statements, with what was printed last. -/
def Collected.flush (c : Collected) : List Stmt :=
  if c.parts.isEmpty then c.done else c.done ++ [.output c.parts]

/-- A body of statements up to one of the closing words, or the whole template: data and printed
expressions side by side are one output. -/
def contents (bodyIn : Context → Body) (c : Context) (ends : Option (List Text)) :
    Parse (List Stmt) :=
  iterate (fun (collected : Collected) => do
    match ← kind with
    | .eof => return .inr collected.flush
    | .data t =>
        let _ ← advance
        return .inl { collected with parts := collected.parts ++ [.data t] }
    | .variableBegin =>
        let _ ← advance
        let e ← tuple
        let _ ← expect .variableEnd
        return .inl { collected with parts := collected.parts ++ [e.expr] }
    | _ =>
        let _ ← advance
        let closes := match ends, ← kind with
          | some words, .name t => words.contains t
          | _, _ => false
        if closes then return .inr collected.flush
        let s ← statement bodyIn c
        let _ ← expect .blockEnd
        return .inl ⟨collected.flush ++ [s], []⟩) ⟨[], []⟩

/-- The body of a statement, behind an optional colon and the end of the tag. -/
def bodyOf (inner : Context × Option (List Text) → Parse (List Stmt)) (c : Context) : Body :=
  fun ends take => do
    let _ ← accept (.operator .colon)
    let _ ← expect .blockEnd
    let c : Context := { c with ends := ends :: c.ends }
    let statements ← inner (c, some ends)
    if (← kind) == .eof then fail (c.openBlock none)
    if take then
      let _ ← advance
    return statements

/-- The contents of a body in terms of the contents of the bodies in it. -/
def bodyRule (inner : Context × Option (List Text) → Parse (List Stmt))
    (at_ : Context × Option (List Text)) : Parse (List Stmt) :=
  contents (bodyOf inner) at_.1 at_.2

/-- A whole template. -/
def template : Parse Template :=
  return ⟨← recursive bodyRule (⟨[], []⟩, none)⟩

end Grammar
end Template
end LiquidMarkdown
