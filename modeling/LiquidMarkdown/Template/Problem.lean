import LiquidMarkdown.Text.Quoted

/-!
# Problems in templates

Everything that can be wrong with a template, as data, and the wording of each.  This file
defines:

* `EscapeProblem` — what can be wrong with an escape sequence in a string;
* `Problem.Cause` — what is wrong, and `Problem.Kind`, of which kind that is;
* `Problem` — a cause with its line;
* `Problem.message` — the wording.
-/

namespace LiquidMarkdown
namespace Template

/-- What is wrong with an escape sequence. -/
inductive EscapeProblem where
  | shortByte
  | shortUnit
  | shortCodePoint
  | outOfRange
  | malformedName
  | unknownName
  deriving DecidableEq, Repr

/-- The wording of an escape problem. -/
def EscapeProblem.message : EscapeProblem → Text
  | shortByte => "truncated \\xXX escape"
  | shortUnit => "truncated \\uXXXX escape"
  | shortCodePoint => "truncated \\UXXXXXXXX escape"
  | outOfRange => "illegal Unicode character"
  | malformedName => "malformed \\N character escape"
  | unknownName => "unknown Unicode character name"

/-- What is wrong with a template. -/
inductive Problem.Cause where
  /-- A comment without an end. -/
  | openComment
  /-- A raw section without an end. -/
  | openRaw
  /-- A character that begins no token. -/
  | strayCharacter (c : Char) (offset : Nat)
  /-- A name that is no identifier. -/
  | badIdentifier
  | badEscape (e : EscapeProblem)
  /-- A closing bracket without an opening one. -/
  | strayBracket (c : Char)
  /-- A closing bracket that does not fit the opening one. -/
  | wrongBracket (c wanted : Char)
  /-- An integer literal with too many digits. -/
  | longInteger (digits : Nat)
  /-- A floating-point literal that starts with a digit beyond ASCII. -/
  | foreignDigit (c : Char)
  /-- A floating-point literal with a digit beyond ASCII behind its start. -/
  | badDecimal
  /-- Such a digit behind a leading zero and another digit. -/
  | leadingZero
  | expected (wanted got : Text)
  | expectedAtEnd (wanted : Text)
  | unexpected (got : Text)
  | noExpression (got : Text)
  | noNameOrNumber
  | noTagName
  | noCall
  | badArguments
  | chainedTests
  | hyphenInBlockName
  | requiredBlockContent
  | notAssignable (kind : Text)
  | privateImport
  | defaultOrder
  /-- A tag that is unknown here, or the end of the template, where a block is still open. -/
  | openBlock (tag : Option Text) (misnested : Bool) (wanted : List Text) (innermost : Option Text)
  /-- A rule came back without having read anything, which no rule of the grammar does. -/
  | stalled
  deriving DecidableEq, Repr

/-- The kinds of problems, which are told apart by whoever has to deal with them. -/
inductive Problem.Kind where
  /-- The template is not in the grammar. -/
  | grammar
  /-- The template is in the grammar, but says what no template may say. -/
  | assertion
  /-- A literal cannot be evaluated. -/
  | literal
  /-- A literal is too long to be evaluated. -/
  | size
  deriving DecidableEq, Repr

/-- Of which kind a problem is. -/
def Problem.Cause.kind : Problem.Cause → Problem.Kind
  | longInteger _ => .size
  | foreignDigit _ | badDecimal | leadingZero => .literal
  | privateImport => .assertion
  | _ => .grammar

/-- Something wrong with a template, and the line where it shows. -/
structure Problem where
  line : Nat
  cause : Problem.Cause
  deriving DecidableEq, Repr

namespace Problem

/-- The greatest number of digits of an integer literal. -/
def maxIntegerDigits : Nat := 4300

/-- The sentences about a tag or an end of template that leaves blocks open. -/
def openBlockSentences (tag : Option Text) (misnested : Bool) (wanted : List Text)
    (innermost : Option Text) : List Text :=
  let first : Text := match tag with
    | none => "Unexpected end of template."
    | some name => ("Encountered unknown tag " : Text) ++ name.quoted ++ "."
  let looking : Text := Text.joinWith " or " (wanted.map Text.quoted)
  let second : List Text :=
    if wanted = [] then []
    else if misnested then
      [("You probably made a nesting mistake. Jinja is expecting this tag, but currently " : Text)
        ++ "looking for " ++ looking ++ "."]
    else [("Jinja was looking for the following tags: " : Text) ++ looking ++ "."]
  let third : List Text := match innermost with
    | none => []
    | some name =>
        [("The innermost block that needs to be closed is " : Text) ++ name.quoted ++ "."]
  first :: (second ++ third)

/-- The wording of a cause. -/
def Cause.message : Cause → Text
  | openComment => "Missing end of comment tag"
  | openRaw => "Missing end of raw directive"
  | strayCharacter c offset =>
      ("unexpected char " : Text) ++ Text.quoted [c] ++ " at " ++ Text.ofNat offset
  | badIdentifier => "Invalid character in identifier"
  | badEscape e => e.message
  | strayBracket c => ("unexpected '" : Text) ++ [c, '\'']
  | wrongBracket c wanted =>
      ("unexpected '" : Text) ++ [c, '\''] ++ ", expected '" ++ [wanted, '\'']
  | longInteger digits =>
      ("Exceeds the limit (" : Text) ++ Text.ofNat maxIntegerDigits ++
        " digits) for integer string conversion: value has " ++ Text.ofNat digits ++
        " digits; use sys.set_int_max_str_digits() to increase the limit"
  | foreignDigit c =>
      ("invalid character '" : Text) ++ [c] ++ "' (U+" ++
        (Text.hexDigits 4 c.toNat).map Char.toUpper ++ ") (<unknown>, line 1)"
  | badDecimal => "invalid decimal literal (<unknown>, line 1)"
  | leadingZero =>
      ("leading zeros in decimal integer literals are not permitted; " : Text) ++
        "use an 0o prefix for octal integers (<unknown>, line 1)"
  | expected wanted got => ("expected token " : Text) ++ wanted.quoted ++ ", got " ++ got.quoted
  | expectedAtEnd wanted =>
      ("unexpected end of template, expected " : Text) ++ wanted.quoted ++ "."
  | unexpected got => ("unexpected " : Text) ++ got.quoted
  | noExpression got => ("Expected an expression, got " : Text) ++ got.quoted
  | noNameOrNumber => "expected name or number"
  | noTagName => "tag name expected"
  | noCall => "expected call"
  | badArguments => "invalid syntax for function call expression"
  | chainedTests => "You cannot chain multiple tests with is"
  | hyphenInBlockName =>
      ("Block names in Jinja have to be valid Python identifiers and may not contain " : Text) ++
        "hyphens, use an underscore instead."
  | requiredBlockContent => "Required blocks can only contain comments or whitespace"
  | notAssignable kind => ("can't assign to " : Text) ++ kind.quoted
  | privateImport => "names starting with an underline can not be imported"
  | defaultOrder => "non-default argument follows default argument"
  | openBlock tag misnested wanted innermost =>
      Text.joinWith " " (openBlockSentences tag misnested wanted innermost)
  | stalled => "a rule read nothing"

/-- The wording of a problem, without its line. -/
def message (p : Problem) : Text :=
  p.cause.message

end Problem
end Template
end LiquidMarkdown
