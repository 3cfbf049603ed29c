import LiquidMarkdown.Template.Binary64
import LiquidMarkdown.Template.Token
import LiquidMarkdown.Unicode.Digit

/-!
# Number literals

Digits may be grouped by single low lines.  This file defines:

* `Number.digits` — the longest run of grouped digits;
* `Number.integer?` — an integer literal: binary, octal, hexadecimal or decimal;
* `Number.float?` — a floating-point literal: a fraction, an exponent, or both.
-/

namespace LiquidMarkdown
namespace Template
namespace Number

/-- The longest run of digits, each perhaps after one low line, and the rest.  The low lines are
left out of the run. -/
def digits (value? : Char → Option Nat) : Text → List Char × Text
  | [] => ([], [])
  | '_' :: c :: cs =>
      match value? c with
      | some _ =>
          let (ds, rest) := digits value? cs
          (c :: ds, rest)
      | none => ([], '_' :: c :: cs)
  | c :: cs =>
      match value? c with
      | some _ =>
          let (ds, rest) := digits value? cs
          (c :: ds, rest)
      | none => ([], c :: cs)

/-- The number that digits of a base stand for. -/
def valueOf (base : Nat) (value? : Char → Option Nat) (ds : List Char) : Nat :=
  ds.foldl (fun n c => base * n + (value? c).getD 0) 0

/-- A decimal digit of any script, or a letter up to `f`. -/
def hexValue? (c : Char) : Option Nat :=
  match Unicode.decimalValue? c with
  | some n => some n
  | none =>
      if 'a' ≤ c && c ≤ 'f' then some (c.toNat - 'a'.toNat + 10)
      else if 'A' ≤ c && c ≤ 'F' then some (c.toNat - 'A'.toNat + 10)
      else none

/-- The ASCII digits below a base of at most ten. -/
def lowDigit? (base : Nat) (c : Char) : Option Nat :=
  if c.isDigit && c.toNat - '0'.toNat < base then some (c.toNat - '0'.toNat) else none

/-- The base that the letter after a leading zero announces, with its digits. -/
def baseOf? (c : Char) : Option (Nat × (Char → Option Nat)) :=
  if c = 'b' || c = 'B' then some (2, lowDigit? 2)
  else if c = 'o' || c = 'O' then some (8, lowDigit? 8)
  else if c = 'x' || c = 'X' then some (16, hexValue?)
  else none

/-- A decimal literal with the given digits. -/
def decimal (ds : List Char) : Token.Kind :=
  if Problem.maxIntegerDigits < ds.length then .fault (.longInteger ds.length)
  else .integer (valueOf 10 Unicode.decimalValue? ds)

/-- A decimal literal: one that starts with a zero has no other digits. -/
def decimal? : Text → Option (Token.Kind × Text)
  | [] => none
  | c :: cs =>
      if c = '0' then
        let (ds, rest) := digits (lowDigit? 1) cs
        some (decimal (c :: ds), rest)
      else if c.isDigit then
        let (ds, rest) := digits Unicode.decimalValue? cs
        some (decimal (c :: ds), rest)
      else none

/-- An integer literal at the start of a text, and the rest. -/
def integer? (t : Text) : Option (Token.Kind × Text) :=
  match t with
  | '0' :: c :: cs =>
      match baseOf? c with
      | some (base, value?) =>
          match digits value? cs with
          | ([], _) => decimal? t
          | (ds, rest) => some (.integer (valueOf base value? ds), rest)
      | none => decimal? t
  | _ => decimal? t

/-- A run of grouped decimal digits that starts with a digit. -/
def decimalRun? : Text → Option (List Char × Text)
  | [] => none
  | c :: cs =>
      if Unicode.isDecimal c then
        let (ds, rest) := digits Unicode.decimalValue? cs
        some (c :: ds, rest)
      else none

/-- A point and the digits behind it. -/
def fraction? : Text → Option (List Char × Text)
  | '.' :: cs => decimalRun? cs
  | _ => none

/-- An exponent: its sign, its digits and the rest. -/
def exponent? : Text → Option (Bool × List Char × Text)
  | c :: cs =>
      if c = 'e' || c = 'E' then
        match cs with
        | '-' :: r => (decimalRun? r).map fun (ds, rest) => (true, ds, rest)
        | '+' :: r => (decimalRun? r).map fun (ds, rest) => (false, ds, rest)
        | r => (decimalRun? r).map fun (ds, rest) => (false, ds, rest)
      else none
  | [] => none

/-- What is wrong with digits of which not all are ASCII: the part before the point is read as an
integer up to the first foreign digit, and may then have no leading zero. -/
def foreignDigits (whole : List Char) : Problem.Cause :=
  match whole with
  | c :: _ =>
      if !c.isDigit then .foreignDigit c
      else if whole.all Char.isDigit then .badDecimal
      else if c = '0' && (whole.takeWhile Char.isDigit).any (· != '0') then .leadingZero
      else .badDecimal
  | [] => .badDecimal

/-- The literal with the given digits before the point, behind it, and in the exponent. -/
def float (whole frac : List Char) (negative : Bool) (exponent : List Char) : Token.Kind :=
  if (whole ++ frac ++ exponent).all Char.isDigit then
    let m := valueOf 10 Unicode.decimalValue? (whole ++ frac)
    let e := valueOf 10 Unicode.decimalValue? exponent
    .float (Binary64.ofDecimal m ((if negative then -(e : Int) else e) - frac.length))
  else .fault (foreignDigits whole)

/-- A floating-point literal at the start of a text, and the rest; `previous` is the character
before it, since a literal does not start behind a point. -/
def float? (previous : Char) (t : Text) : Option (Token.Kind × Text) :=
  if previous = '.' then none
  else do
    let (whole, afterWhole) ← decimalRun? t
    match fraction? afterWhole with
    | some (frac, afterFrac) =>
        match exponent? afterFrac with
        | some (negative, ds, rest) => some (float whole frac negative ds, rest)
        | none => some (float whole frac false [], afterFrac)
    | none =>
        let (negative, ds, rest) ← exponent? afterWhole
        some (float whole [] negative ds, rest)

end Number
end Template
end LiquidMarkdown
