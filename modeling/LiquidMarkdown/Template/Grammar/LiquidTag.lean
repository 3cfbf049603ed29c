import LiquidMarkdown.Template.Grammar.Expression

/-!
# Liquid tags

The tags that Liquid has beside the common statements.  Each is read into the statement that
describes it best: a counter is a printed name, a partial template is a call.  This file defines:

* `Body` — a reader for the statements up to one of some closing words;
* `counter`, `echo`, `cycle`, `assignment`, `layout`, `partialCall`, `lineTags` — the tags.
-/

namespace LiquidMarkdown
namespace Template
namespace Grammar

open Parse

/-- A reader for statements up to one of the given words, which it takes only if told to. -/
abbrev Body := (ends : List Text) → (take : Bool) → Parse (List Stmt)

/-- A call of a function by name, for its effect. -/
def callOf (function : Text) (args : List Expr) (keywords : List (Text × Expr)) : Stmt :=
  .evaluate (.call (.name function .load) ⟨args, keywords, none, none⟩)

/-- A name that gets a value. -/
def assignment : Parse Stmt := do
  let _ ← advance
  let (_, name) ← targetName
  let _ ← expect (.operator .assign)
  return .assign (.name name .store) (← expression).expr

/-- A counter, which prints its value. -/
def counter : Parse Stmt := do
  let _ ← advance
  let (_, name) ← expectName
  return .output [.name name .load]

/-- A printed expression. -/
def echo : Parse Stmt := do
  let _ ← advance
  return .output [(← expression).expr]

/-- Values that are printed in turn, perhaps behind the name of their group. -/
def cycle : Parse Stmt := do
  let _ ← advance
  let group ← expression
  let first ← if ← accept (.operator .colon) then expression else pure group
  let values ← iterate (fun (values : List Expr) => do
    if ← accept (.operator .comma) then return .inl (values ++ [(← expression).expr])
    else return .inr values) [first.expr]
  return .output [.tuple values .load]

/-- Is an object given to a partial template?  The one word is taken that says so. -/
def takesObject : Parse Bool := do
  if ← accept (.word "with") then return true else accept (.word "for")

/-- The object that a partial template is given, perhaps under another name. -/
def partialObject : Parse (List (Text × Expr)) := do
  if ← takesObject then
    let object ← expression
    if ← accept (.word "as") then
      let (_, given) ← expectName
      return [("object", object.expr), ("alias", .constant (.string given))]
    else return [("object", object.expr)]
  else return []

/-- A partial template with the names that it is given. -/
def partialCall (function : Text) : Parse Stmt := do
  let _ ← advance
  let template ← expression
  let keywords ← iterate (fun (keywords : List (Text × Expr)) => do
    if ← accept (.operator .comma) then
      let (_, key) ← expectName
      let _ ← expect (.operator .colon)
      let value ← expression
      return .inl (keywords ++ [(key, value.expr)])
    else return .inr keywords) (← partialObject)
  return callOf function [template.expr] keywords

/-- The template that lays out this one. -/
def layout : Parse Stmt := do
  let _ ← advance
  return callOf "layout" [(← expression).expr] []

/-- The tags of a tag that holds one tag a line. -/
def lineTags (body : Body) : Parse Stmt := do
  let _ ← advance
  return .scope (← body ["endliquid"] true)

end Grammar
end Template
end LiquidMarkdown
