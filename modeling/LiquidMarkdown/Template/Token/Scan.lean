import LiquidMarkdown.Template.Token.Escape
import LiquidMarkdown.Template.Token.Number
import LiquidMarkdown.Text.Blank
import LiquidMarkdown.Text.Lines
import LiquidMarkdown.Unicode.Identifier

/-!
# Scanning templates

A template is text with printed expressions, statements, comments and raw sections between
delimiters.  This file defines:

* `Delimiter` — what opens in the text, and `Delimiter.next?`, the first thing that does;
* `Cursor` — the scanner's place, with the line and the offset;
* `Cursor.lexeme` — the next token inside delimiters;
* `Cursor.scan` — the tokens of a text from a place on;
* `tokens` — the token list of a source.

A dash inside a delimiter removes the blanks on its outer side.
-/

namespace LiquidMarkdown
namespace Template

/-! ## Delimiters -/

/-- What a delimiter in the text opens. -/
inductive Delimiter where
  | raw
  | comment
  | block
  | variable
  deriving DecidableEq, Repr

namespace Delimiter

/-- A sign after an opening delimiter: does it trim, and what follows. -/
def sign : Text → Bool × Text
  | '-' :: t => (true, t)
  | '+' :: t => (false, t)
  | t => (false, t)

/-- The end of a statement: a plus sign keeps what follows, a dash trims it. -/
def blockEnd? : Text → Option Text
  | '+' :: '%' :: '}' :: t => some t
  | '-' :: '%' :: '}' :: t => some (Text.trimStart t)
  | '%' :: '}' :: t => some t
  | _ => none

/-- The end of a printed expression. -/
def variableEnd? : Text → Option Text
  | '-' :: '}' :: '}' :: t => some (Text.trimStart t)
  | '}' :: '}' :: t => some t
  | _ => none

/-- The end of a comment. -/
def commentEnd? : Text → Option Text
  | '+' :: '#' :: '}' :: t => some t
  | '-' :: '#' :: '}' :: t => some (Text.trimStart t)
  | '#' :: '}' :: t => some t
  | _ => none

/-- What follows a word between blanks. -/
def word? (word t : Text) : Option Text :=
  (Text.dropPrefix? word (Text.trimStart t)).map Text.trimStart

/-- The rest of a statement that opens a raw section. -/
def rawBegin? (t : Text) : Option Text :=
  match word? "raw" t with
  | some ('-' :: '%' :: '}' :: r) => some (Text.trimStart r)
  | some ('%' :: '}' :: r) => some r
  | _ => none

/-- A statement that closes a raw section: does it trim, and what follows. -/
def rawEnd? : Text → Option (Bool × Text)
  | '{' :: '%' :: t =>
      let (trims, r) := sign t
      (word? "endraw" r >>= blockEnd?).map fun rest => (trims, rest)
  | _ => none

/-- A delimiter at the start of a text: what it opens, whether it trims, and what follows. -/
def read? : Text → Option (Delimiter × Bool × Text)
  | '{' :: '#' :: t => some (.comment, sign t)
  | '{' :: '{' :: t => some (.variable, sign t)
  | '{' :: '%' :: t =>
      let (trims, r) := sign t
      match rawBegin? r with
      | some rest => some (.raw, trims, rest)
      | none => some (.block, trims, r)
  | _ => none

end Delimiter

/-- The text before the first place where `at?` reads something, and what it reads there. -/
def breakAt {α : Type} (at? : Text → Option α) : Text → Option (Text × α)
  | [] => (at? []).map fun a => ([], a)
  | c :: cs => match at? (c :: cs) with
      | some a => some ([], a)
      | none => (breakAt at? cs).map fun (before, a) => (c :: before, a)

/-! ## Places -/

/-- The scanner's place: line, offset, the character before it, and the text that is left. -/
structure Cursor where
  line : Nat
  offset : Nat
  previous : Char
  rest : Text

namespace Cursor

/-- The start of a text. -/
def start (t : Text) : Cursor :=
  ⟨1, 0, '\n', t⟩

/-- The place where `rest` is left. -/
def moveTo (c : Cursor) (rest : Text) : Cursor :=
  let passed := c.rest.take (c.rest.length - rest.length)
  ⟨c.line + passed.count '\n', c.offset + passed.length, passed.getLastD c.previous, rest⟩

/-! ## Lexemes -/

/-- The inside of a string literal up to the closing quote, and the rest. -/
def stringInside? (quote : Char) : Text → Option (Text × Text)
  | [] => none
  | '\\' :: c :: cs => (stringInside? quote cs).map fun (s, r) => ('\\' :: c :: s, r)
  | c :: cs =>
      if c = quote then some ([], cs)
      else if c = '\\' then none
      else (stringInside? quote cs).map fun (s, r) => (c :: s, r)

/-- A string literal at the start of a text, and the rest. -/
def string? : Text → Option (Token.Kind × Text)
  | c :: cs =>
      if c = '\'' || c = '"' then
        (stringInside? c cs).map fun (s, r) =>
          match Escape.decode s with
          | .ok value => (.string value, r)
          | .error e => (.fault (.badEscape e), r)
      else none
  | [] => none

/-- A name at the start of a text, and the rest. -/
def name? (t : Text) : Option (Token.Kind × Text) :=
  match t.takeWhile Unicode.isNameCharacter with
  | [] => none
  | name =>
      let rest := t.dropWhile Unicode.isNameCharacter
      if Unicode.isIdentifier name then some (.name name, rest)
      else some (.fault .badIdentifier, rest)

/-- The bracket that closes an opening one. -/
def closing? : Operator → Option Char
  | .leftBrace => some '}'
  | .leftParen => some ')'
  | .leftBracket => some ']'
  | _ => none

/-- The character of a closing bracket. -/
def closer? : Operator → Option Char
  | .rightBrace => some '}'
  | .rightParen => some ')'
  | .rightBracket => some ']'
  | _ => none

/-- An operator among open brackets: its token and the brackets that are open after it. -/
def bracketed (o : Operator) (brackets : List Char) : Token.Kind × List Char :=
  match closing? o with
  | some b => (.operator o, b :: brackets)
  | none => match closer? o with
      | none => (.operator o, brackets)
      | some c => match brackets with
          | [] => (.fault (.strayBracket c), [])
          | b :: bs => if b = c then (.operator o, bs) else (.fault (.wrongBracket c b), bs)

/-- The token at a place inside delimiters, which holds no blank: what it is, the brackets that are
open after it, and what follows it. -/
def lexeme (c : Cursor) (brackets : List Char) : Token.Kind × List Char × Text :=
  let plain (r : Token.Kind × Text) : Token.Kind × List Char × Text := (r.1, brackets, r.2)
  match Number.float? c.previous c.rest with
  | some r => plain r
  | none => match Number.integer? c.rest with
    | some r => plain r
    | none => match name? c.rest with
      | some r => plain r
      | none => match string? c.rest with
        | some r => plain r
        | none => match Operator.read? c.rest with
          | some (o, rest) =>
              let (kind, open_) := bracketed o brackets
              (kind, open_, rest)
          | none => (.fault (.strayCharacter (c.rest.headD ' ') c.offset), brackets, [])

/-! ## The scan -/

/-- What the scanner is in. -/
inductive Mode where
  | text
  | comment
  | raw
  /-- Inside delimiters, among the given open brackets. -/
  | inside (delimiter : Delimiter) (brackets : List Char)

/-- A data token, unless it is empty. -/
def dataToken (line : Nat) (t : Text) : List Token :=
  if t = [] then [] else [⟨line, .data t⟩]

/-- What one step of the scanner comes to. -/
inductive Step where
  /-- The scan is over, after these last tokens. -/
  | last (tokens : List Token)
  /-- These tokens, and on from another place. -/
  | next (tokens : List Token) (mode : Mode) (rest : Text)

/-- The step in text: the data up to the next delimiter, and the token of the delimiter. -/
def textStep (c : Cursor) : Step :=
  match breakAt Delimiter.read? c.rest with
  | none => .last (dataToken c.line c.rest)
  | some (before, delimiter, trims, rest) =>
      let data := dataToken c.line (if trims then Text.trimEnd before else before)
      let line := c.line + before.count '\n'
      match delimiter with
      | .raw => .next data .raw rest
      | .comment => .next data .comment rest
      | .block => .next (data ++ [⟨line, .blockBegin⟩]) (.inside .block []) rest
      | .variable => .next (data ++ [⟨line, .variableBegin⟩]) (.inside .variable []) rest

/-- The step in a comment. -/
def commentStep (c : Cursor) : Step :=
  match breakAt Delimiter.commentEnd? c.rest with
  | some (_, rest) => .next [] .text rest
  | none => if c.rest = [] then .last [] else .last [⟨c.line, .fault .openComment⟩]

/-- The step in a raw section. -/
def rawStep (c : Cursor) : Step :=
  match breakAt Delimiter.rawEnd? c.rest with
  | some (before, trims, rest) =>
      .next (dataToken c.line (if trims then Text.trimEnd before else before)) .text rest
  | none => if c.rest = [] then .last [] else .last [⟨c.line, .fault .openRaw⟩]

/-- The end of what a delimiter opened, and its token. -/
def end? (delimiter : Delimiter) (t : Text) : Option (Token.Kind × Text) :=
  match delimiter with
  | .variable => (Delimiter.variableEnd? t).map fun r => (.variableEnd, r)
  | _ => (Delimiter.blockEnd? t).map fun r => (.blockEnd, r)

/-- Is the token the scanner's last? -/
def isFault : Token.Kind → Bool
  | .fault _ => true
  | _ => false

/-- The step between delimiters: their end, where no bracket is open, else blanks or a token. -/
def insideStep (delimiter : Delimiter) (brackets : List Char) (c : Cursor) : Step :=
  match (if brackets = [] then end? delimiter c.rest else none) with
  | some (kind, rest) => .next [⟨c.line, kind⟩] .text rest
  | none => match c.rest with
      | [] => .last []
      | x :: xs =>
          if Text.isBlank x then .next [] (.inside delimiter brackets) (Text.trimStart xs)
          else
            let (kind, open_, rest) := c.lexeme brackets
            if isFault kind then .last [⟨c.line, kind⟩]
            else .next [⟨c.line, kind⟩] (.inside delimiter open_) rest

/-- One step of the scanner. -/
def step (mode : Mode) (c : Cursor) : Step :=
  match mode with
  | .text => textStep c
  | .comment => commentStep c
  | .raw => rawStep c
  | .inside delimiter brackets => insideStep delimiter brackets c

/-- The tokens of a text from a place on.  Every step takes something from the text. -/
def scan (mode : Mode) (c : Cursor) : List Token :=
  match step mode c with
  | .last tokens => tokens
  | .next tokens mode rest =>
      if rest.length < c.rest.length then tokens ++ scan mode (c.moveTo rest) else tokens
termination_by c.rest.length

end Cursor

/-! ## Sources -/

/-- The list with the token for the end of the template, which stands on the line of the last
token; a list that stops at a fault stays as it is. -/
def closeTokens (ts : List Token) : List Token :=
  match ts.getLast? with
  | some ⟨_, .fault _⟩ => ts
  | some t => ts ++ [⟨t.line, .eof⟩]
  | none => [⟨1, .eof⟩]

/-- The text without one line feed at its end. -/
def dropFinalNewline (t : Text) : Text :=
  if t.getLast? = some '\n' then t.dropLast else t

/-- The tokens of a source.  All line ends are line feeds, and one at the very end is dropped. -/
def tokens (source : Text) : List Token :=
  closeTokens (Cursor.scan .text (Cursor.start (dropFinalNewline source.normalizeNewlines)))

end Template
end LiquidMarkdown
