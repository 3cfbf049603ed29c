import LiquidMarkdown.Text.Blank

/-!
# Comma lists

A list of names written in one line of text: items stand between commas, quotes protect commas, a
backslash protects the character after it, and a number sign starts a comment that runs to the end
of the line.  Empty items without quotes are no items.  This file defines:

* `CommaList.Error` — the two ways in which such a text can break off;
* `CommaList.parse` — the items, each trimmed of ASCII blanks.
-/

namespace LiquidMarkdown
namespace CommaList

/-- Why a text is no comma list. -/
inductive Error where
  /-- The text ends inside quotes. -/
  | openQuote
  /-- The text ends in a backslash. -/
  | openEscape
  deriving DecidableEq, Repr

/-- The wording of an error. -/
def Error.message : Error → Text
  | .openQuote => "No closing quotation"
  | .openEscape => "No escaped character"

/-- Where the scanner stands. -/
inductive Mode where
  /-- Between two items. -/
  | between
  /-- In a comment. -/
  | comment
  /-- In an item, outside quotes. -/
  | item
  /-- In an item, between the given quotes. -/
  | quotes (q : Char)
  /-- After a backslash; inside double quotes it stays unless it protects something there. -/
  | escape (inQuotes : Bool)

/-- Is there an item to emit?  An empty one counts if it had quotes. -/
def emit (token : Text) (hadQuotes : Bool) (rest : List Text) : List Text :=
  if token ≠ [] || hadQuotes then token.reverse :: rest else rest

/-- The items of a text; `token` is the reversed beginning of the current one. -/
def scan (mode : Mode) (token : Text) (hadQuotes : Bool) : Text → Except Error (List Text)
  | [] => match mode with
      | .between | .comment => .ok []
      | .item => .ok (emit token hadQuotes [])
      | .quotes _ => .error .openQuote
      | .escape _ => .error .openEscape
  | c :: cs => match mode with
      | .comment => scan (if c = '\n' then .between else .comment) [] false cs
      | .between =>
          if c = ',' then scan .between [] false cs
          else if c = '#' then scan .comment [] false cs
          else if c = '\\' then scan (.escape false) [] hadQuotes cs
          else if c = '\'' || c = '"' then scan (.quotes c) [] hadQuotes cs
          else scan .item [c] hadQuotes cs
      | .quotes q =>
          if c = q then scan .item token true cs
          else if c = '\\' && q = '"' then scan (.escape true) token true cs
          else scan (.quotes q) (c :: token) true cs
      | .escape inQuotes =>
          let token := if inQuotes && c ≠ '\\' && c ≠ '"' then '\\' :: token else token
          scan (if inQuotes then .quotes '"' else .item) (c :: token) hadQuotes cs
      | .item =>
          if c = ',' then (scan .between [] false cs).map (emit token hadQuotes)
          else if c = '#' then (scan .comment [] false cs).map (emit token hadQuotes)
          else if c = '\'' || c = '"' then scan (.quotes c) token hadQuotes cs
          else if c = '\\' then scan (.escape false) token hadQuotes cs
          else scan .item (c :: token) hadQuotes cs

/-- An ASCII blank. -/
def isAsciiBlank (c : Char) : Bool :=
  c = ' ' || 9 ≤ c.toNat && c.toNat ≤ 13

/-- The items of a comma list. -/
def parse (t : Text) : Except Error (List Text) :=
  (scan .between [] false t).map (·.map (Text.trimAll isAsciiBlank))

end CommaList
end LiquidMarkdown
