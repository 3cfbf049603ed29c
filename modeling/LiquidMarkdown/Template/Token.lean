import LiquidMarkdown.Template.Problem

/-!
# Template tokens

* `Operator` — the operators and brackets of expressions, with their symbols;
* `Token.Kind`, `Token` — the tokens of a template, each with the line where it stands;
* `Token.describe` — the word for a token in messages.

A token list closes with a token for the end of the template or for the problem that stopped the
scanner; whoever comes to look at the latter reports the problem.
-/

namespace LiquidMarkdown
namespace Template

/-- Operators and brackets. -/
inductive Operator where
  | add | sub | div | floorDiv | mul | mod | pow | tilde
  | leftBracket | rightBracket | leftParen | rightParen | leftBrace | rightBrace
  | eq | ne | gt | ge | lt | le | assign
  | dot | colon | pipe | comma | semicolon
  deriving DecidableEq, Repr

namespace Operator

/-- How an operator is written. -/
def symbol : Operator → Text
  | add => ['+'] | sub => ['-'] | div => ['/'] | floorDiv => ['/', '/'] | mul => ['*']
  | mod => ['%'] | pow => ['*', '*'] | tilde => ['~']
  | leftBracket => ['['] | rightBracket => [']'] | leftParen => ['('] | rightParen => [')']
  | leftBrace => ['{'] | rightBrace => ['}']
  | eq => ['=', '='] | ne => ['!', '='] | gt => ['>'] | ge => ['>', '='] | lt => ['<']
  | le => ['<', '='] | assign => ['=']
  | dot => ['.'] | colon => [':'] | pipe => ['|'] | comma => [','] | semicolon => [';']

/-- All operators, the longer symbols first. -/
def all : List Operator :=
  [floorDiv, pow, eq, ne, ge, le,
    add, sub, div, mul, mod, tilde, leftBracket, rightBracket, leftParen, rightParen, leftBrace,
    rightBrace, gt, lt, assign, dot, colon, pipe, comma, semicolon]

theorem mem_all (o : Operator) : o ∈ all := by
  cases o <;> decide

/-- The operator at the start of a text, and the rest. -/
def read? (t : Text) : Option (Operator × Text) :=
  all.findSome? fun o => (Text.dropPrefix? o.symbol t).map fun rest => (o, rest)

end Operator

/-- What a token is. -/
inductive Token.Kind where
  /-- Text outside all delimiters. -/
  | data (t : Text)
  | name (t : Text)
  | string (t : Text)
  | integer (n : Nat)
  /-- A floating-point number, as its 64-bit pattern. -/
  | float (bits : Nat)
  | operator (o : Operator)
  | variableBegin
  | variableEnd
  | blockBegin
  | blockEnd
  /-- The end of the template. -/
  | eof
  /-- The place where the scanner could not go on. -/
  | fault (cause : Problem.Cause)
  deriving DecidableEq, Repr

/-- A token and its line. -/
structure Token where
  line : Nat
  kind : Token.Kind
  deriving DecidableEq, Repr

namespace Token

/-- The word for a kind of token in messages; names stand for themselves. -/
def Kind.describe : Kind → Text
  | data _ => "template data / text"
  | name t => t
  | string _ => "string"
  | integer _ => "integer"
  | float _ => "float"
  | operator o => o.symbol
  | variableBegin => "begin of print statement"
  | variableEnd => "end of print statement"
  | blockBegin => "begin of statement block"
  | blockEnd => "end of statement block"
  | eof => "end of template"
  | fault _ => "end of template"

end Token
end Template
end LiquidMarkdown
