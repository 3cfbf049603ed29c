import LiquidMarkdown.Text.Quoted

/-!
# JSON

Values as JSON text, one member or item a line.  This file defines:

* `Json` — a value;
* `Json.quote` — a text as a JSON string, in which only quotes, backslashes and control characters
  are escaped;
* `Json.render` — a value as text; nested members are indented by two spaces.
-/

namespace LiquidMarkdown

/-- A JSON value; the members of an object stay in the given order. -/
inductive Json where
  | null
  | number (n : Int)
  | text (t : Text)
  | list (items : List Json)
  | object (members : List (Text × Json))

namespace Json

/-- A text, or nothing. -/
def ofText? : Option Text → Json
  | none => null
  | some t => text t

/-- A number, or nothing. -/
def ofInt? : Option Int → Json
  | none => null
  | some n => number n

/-! ## Strings -/

/-- A character as it stands in a JSON string. -/
def escapeChar (c : Char) : Text :=
  if c = '"' || c = '\\' then ['\\', c]
  else if c = '\n' then ['\\', 'n']
  else if c = '\r' then ['\\', 'r']
  else if c = '\t' then ['\\', 't']
  else if c.toNat = 8 then ['\\', 'b']
  else if c.toNat = 12 then ['\\', 'f']
  else if c.toNat < 0x20 then '\\' :: 'u' :: Text.hexDigits 4 c.toNat
  else [c]

/-- A text as a JSON string. -/
def quote (t : Text) : Text :=
  '"' :: t.flatMap escapeChar ++ ['"']

/-! ## Values -/

/-- The beginning of a line at a depth. -/
def newLine (depth : Nat) : Text :=
  '\n' :: List.replicate (2 * depth) ' '

/-- Items one a line between brackets; without items the brackets stand together. -/
def enclose (left right : Char) (depth : Nat) (items : List Text) : Text :=
  if items = [] then [left, right]
  else
    let start := newLine (depth + 1)
    left :: start ++ Text.joinWith (',' :: start) items ++ newLine depth ++ [right]

mutual

/-- A value at a depth as text. -/
def renderAt (depth : Nat) : Json → Text
  | null => "null"
  | number n => Text.ofInt n
  | text t => quote t
  | list items => enclose '[' ']' depth (renderItems (depth + 1) items)
  | object members => enclose '\x7b' '\x7d' depth (renderMembers (depth + 1) members)

def renderItems (depth : Nat) : List Json → List Text
  | [] => []
  | j :: js => renderAt depth j :: renderItems depth js

def renderMembers (depth : Nat) : List (Text × Json) → List Text
  | [] => []
  | (k, j) :: ms => (quote k ++ ": " ++ renderAt depth j) :: renderMembers depth ms

end

/-- A value as text. -/
def render (j : Json) : Text :=
  renderAt 0 j

end Json
end LiquidMarkdown
