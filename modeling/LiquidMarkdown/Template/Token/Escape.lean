import LiquidMarkdown.Template.Problem
import LiquidMarkdown.Unicode.Name

/-!
# Escape sequences in template strings

A backslash starts an escape sequence; an unknown one stands for itself.  Characters beyond ASCII
are written out as escape sequences first, so that a backslash in front of one is an escaped
backslash.  This file defines:

* `Escape.spellOut` — a text with its characters beyond ASCII written as escape sequences;
* `Escape.resolve` — the text that the escape sequences stand for;
* `Escape.decode` — both in turn.
-/

namespace LiquidMarkdown
namespace Template
namespace Escape

/-- The text with its characters beyond ASCII written as escape sequences. -/
def spellOut (t : Text) : Text :=
  t.flatMap fun c =>
    if c.toNat < 0x80 then [c]
    else if c.toNat < 0x100 then '\\' :: 'x' :: Text.hexDigits 2 c.toNat
    else if c.toNat < 0x10000 then '\\' :: 'u' :: Text.hexDigits 4 c.toNat
    else '\\' :: 'U' :: Text.hexDigits 8 c.toNat

/-- The value of a hexadecimal digit. -/
def hexValue? (c : Char) : Option Nat :=
  if c.isDigit then some (c.toNat - '0'.toNat)
  else if 'a' ≤ c && c ≤ 'f' then some (c.toNat - 'a'.toNat + 10)
  else if 'A' ≤ c && c ≤ 'F' then some (c.toNat - 'A'.toNat + 10)
  else none

/-- The value of a text of hexadecimal digits. -/
def hexNumber? (t : Text) : Option Nat :=
  t.foldlM (fun n c => (hexValue? c).map (16 * n + ·)) 0

/-- The value of an octal digit. -/
def octalValue? (c : Char) : Option Nat :=
  if '0' ≤ c && c ≤ '7' then some (c.toNat - '0'.toNat) else none

/-- The character that a single letter after a backslash stands for. -/
def letter? : Char → Option Char
  | '\\' => some '\\'
  | '\'' => some '\''
  | '"' => some '"'
  | 'b' => some '\x08'
  | 'f' => some '\x0c'
  | 't' => some '\t'
  | 'n' => some '\n'
  | 'r' => some '\r'
  | 'v' => some '\x0b'
  | 'a' => some '\x07'
  | _ => none

/-- A code point given by a fixed number of hexadecimal digits, and the rest. -/
def fixed (digits : Nat) (short : EscapeProblem) (t : Text) : Except EscapeProblem (Char × Text) :=
  let ds := t.take digits
  match hexNumber? ds with
  | some n =>
      if ds.length < digits then .error short
      else if 0x10ffff < n then .error .outOfRange
      else .ok (Char.ofNat n, t.drop digits)
  | none => .error short

/-- The value of up to `count` more octal digits, and the rest. -/
def octal (count value : Nat) : Text → Nat × Text
  | [] => (value, [])
  | c :: cs => match count, octalValue? c with
      | k + 1, some d => octal k (8 * value + d) cs
      | _, _ => (value, c :: cs)

/-- A character given by its name between braces, and the rest. -/
def named : Text → Except EscapeProblem (Char × Text)
  | '{' :: cs =>
      match Text.breakOn ['}'] cs with
      | some (c :: name, rest) => match Unicode.ofName? (c :: name) with
          | some d => .ok (d, rest)
          | none => .error .unknownName
      | _ => .error .malformedName
  | _ => .error .malformedName

/-- What stands after a backslash: the text it means, and the rest. -/
def sequence : Text → Except EscapeProblem (Text × Text)
  | [] => .ok (['\\'], [])
  | c :: cs =>
      if c = '\n' then .ok ([], cs)
      else if c = 'x' then (fixed 2 .shortByte cs).map fun (d, r) => ([d], r)
      else if c = 'u' then (fixed 4 .shortUnit cs).map fun (d, r) => ([d], r)
      else if c = 'U' then (fixed 8 .shortCodePoint cs).map fun (d, r) => ([d], r)
      else if c = 'N' then (named cs).map fun (d, r) => ([d], r)
      else match letter? c, octalValue? c with
        | some d, _ => .ok ([d], cs)
        | none, some v =>
            let (n, r) := octal 2 v cs
            .ok ([Char.ofNat n], r)
        | none, none => .ok (['\\', c], cs)

/-- The text that the escape sequences stand for. -/
def resolve (t : Text) : Except EscapeProblem Text :=
  match t with
  | [] => .ok []
  | c :: cs =>
      if c = '\\' then do
        let (new, rest) ← sequence cs
        if rest.length < (c :: cs).length then return new ++ (← resolve rest) else return new
      else (resolve cs).map (c :: ·)
termination_by t.length
decreasing_by all_goals simp only [List.length_cons] at *; omega

/-- The text that a string literal's inside stands for. -/
def decode (t : Text) : Except EscapeProblem Text :=
  resolve (spellOut t)

end Escape
end Template
end LiquidMarkdown
