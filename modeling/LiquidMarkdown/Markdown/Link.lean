import LiquidMarkdown.Markdown.Unescape
import LiquidMarkdown.Markdown.Url
import LiquidMarkdown.Unicode.CaseFold

/-!
# Links

The parts that links, pictures and link definitions have in common.  This file defines:

* `Link.destination?` — the address with which a text begins;
* `Link.title?` — the title with which a text begins;
* `Link.Target` — where a link leads;
* `Link.Definitions` — the targets that a document defines under labels.
-/

namespace LiquidMarkdown
namespace Markdown
namespace Link

/-! ## Destinations -/

/-- How deep the parentheses in a destination may be nested. -/
def parenLimit : Nat := 32

/-- The length of a destination in angle brackets, without the brackets. -/
def bracketedLength? : Text → Option Nat
  | [] => none
  | '\\' :: _ :: t => (bracketedLength? t).map (· + 2)
  | c :: t =>
      if c = '\n' || c = '<' then none
      else if c = '>' then some 0
      else (bracketedLength? t).map (· + 1)

/-- The length of a destination without brackets, inside a number of parentheses. -/
def bareLength? (depth : Nat) : Text → Option Nat
  | [] => if depth = 0 then some 0 else none
  | c :: t =>
      let stop := if depth = 0 then some 0 else none
      if c.toNat ≤ 0x20 || c.toNat == 0x7f then stop
      else if c = '\\' then match t with
        | [] => (bareLength? depth []).map (· + 1)
        | d :: u => if d = ' ' then stop else (bareLength? depth u).map (· + 2)
      else if c = '(' then
        if depth = parenLimit then none else (bareLength? (depth + 1) t).map (· + 1)
      else if c = ')' then
        if depth = 0 then some 0 else (bareLength? (depth - 1) t).map (· + 1)
      else (bareLength? depth t).map (· + 1)

/-- The destination with which a text begins, and the rest.  It stands in angle brackets, or it is
not empty and its parentheses match. -/
def destination? : Text → Option (Text × Text)
  | '<' :: t => (bracketedLength? t).map fun n => (unescape (t.take n), t.drop (n + 1))
  | t => do
      let n ← bareLength? 0 t
      if n = 0 then none
      return (unescape (t.take n), t.drop n)

/-! ## Titles -/

/-- The length of a title up to the character that ends it; no parenthesis opens inside
parentheses. -/
def titleLength? (close : Char) : Text → Option Nat
  | [] => none
  | c :: t =>
      if c = close then some 0
      else if c = '(' && close = ')' then none
      else match c, t with
        | '\\', _ :: u => (titleLength? close u).map (· + 2)
        | _, t => (titleLength? close t).map (· + 1)

/-- The character that ends a title which another one opens. -/
def titleClose? : Char → Option Char
  | '"' => some '"'
  | '\'' => some '\''
  | '(' => some ')'
  | _ => none

/-- The title with which a text begins, and the rest.  It stands in quotes or in parentheses. -/
def title? : Text → Option (Text × Text)
  | [] => none
  | c :: t => do
      let n ← titleLength? (← titleClose? c) t
      return (unescape (t.take n), t.drop (n + 1))

/-! ## Targets and definitions -/

/-- Where a link leads, and what is said about it. -/
structure Target where
  address : Text
  title : Text
  deriving DecidableEq, Repr

/-- The address for a destination, unless no link may lead there. -/
def address? (destination : Text) : Option Text :=
  some (Url.normalize destination) |>.filter Url.isAllowed

/-- Every run of padding turned into one space. -/
def collapsePadding : Text → Text
  | [] => []
  | c :: t =>
      if isPadding c then
        match t with
        | d :: _ => if isPadding d then collapsePadding t else ' ' :: collapsePadding t
        | [] => [' ']
      else c :: collapsePadding t

/-- The form in which labels are compared: trimmed, with single spaces, without case. -/
def normalizeLabel (t : Text) : Text :=
  (collapsePadding (trimPadding t)).flatMap Unicode.foldCase

/-- The targets that a document defines, under their labels in normal form. -/
abbrev Definitions := List (Text × Target)

namespace Definitions

/-- The target under a label. -/
def find? (ds : Definitions) (label : Text) : Option Target :=
  List.lookup (normalizeLabel label) ds

/-- The definitions with one more, unless its label is taken. -/
def add (ds : Definitions) (label : Text) (target : Target) : Definitions :=
  if (List.lookup label ds).isSome then ds else ds ++ [(label, target)]

end Definitions
end Link
end Markdown
end LiquidMarkdown
