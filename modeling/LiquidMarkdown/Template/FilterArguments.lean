import LiquidMarkdown.Text.Blank
import LiquidMarkdown.Unicode.Digit
import LiquidMarkdown.Unicode.Word

/-!
# Filter arguments

Liquid writes the arguments of a filter behind a colon, `| truncate: 20, "..."`; the expression
grammar wants them in parentheses, `| truncate(20, "...")`.  This file defines:

* `FilterArguments.breakAtTop` — the text up to a character outside quotes and brackets;
* `FilterArguments.split` — arguments between commas;
* `FilterArguments.asArgument` — a keyword argument with an equals sign in place of its colon;
* `FilterArguments.toCalls` — a text with all its filters rewritten.
-/

namespace LiquidMarkdown
namespace Template
namespace FilterArguments

/-! ## Arguments -/

/-- Is the character a quote? -/
def isQuote (c : Char) : Bool :=
  c = '\'' || c = '"'

/-- The state of a scan that skips quotes and brackets: the quote that is open, and the number of
open brackets. -/
structure Nesting where
  quote : Option Char
  depth : Int

/-- Outside all quotes and brackets. -/
def Nesting.top : Nesting :=
  ⟨none, 0⟩

/-- The state behind a character. -/
def Nesting.push (n : Nesting) (c : Char) : Nesting :=
  match n.quote with
  | some q => if c = q then { n with quote := none } else n
  | none =>
      if isQuote c then { n with quote := some c }
      else if c = '(' || c = '[' then { n with depth := n.depth + 1 }
      else if c = ')' || c = ']' then { n with depth := n.depth - 1 }
      else n

/-- The text up to the first `stop` outside quotes and brackets, and the rest from there on. -/
def breakAtTop (stop : Char) (n : Nesting) : Text → Text × Text
  | [] => ([], [])
  | c :: cs =>
      if c = stop && n.quote.isNone && n.depth ≤ 0 then ([], c :: cs)
      else
        let r := breakAtTop stop (n.push c) cs
        (c :: r.1, r.2)

/-- Breaking a text loses nothing. -/
theorem breakAtTop_append (stop : Char) (n : Nesting) (t : Text) :
    (breakAtTop stop n t).1 ++ (breakAtTop stop n t).2 = t := by
  induction t generalizing n with
  | nil => rfl
  | cons c cs ih =>
      unfold breakAtTop
      split
      · rfl
      · simp [ih]

theorem length_breakAtTop_le (stop : Char) (n : Nesting) (t : Text) :
    (breakAtTop stop n t).2.length ≤ t.length := by
  have h := congrArg List.length (breakAtTop_append stop n t)
  simp only [List.length_append] at h
  omega

/-- The parts of a text between commas outside quotes and brackets. -/
def fields (t : Text) : List Text :=
  let r := breakAtTop ',' Nesting.top t
  match _h : r.2 with
  | [] => [r.1]
  | _ :: rest => r.1 :: fields rest
termination_by t.length
decreasing_by
  have := length_breakAtTop_le ',' Nesting.top t
  simp only [r] at _h
  simp only [_h, List.length_cons] at this
  omega

/-- The arguments in a text: its fields, trimmed, without the empty ones. -/
def split (t : Text) : List Text :=
  ((fields t).map Text.trim).filter (· ≠ [])

/-- An argument as the expression grammar wants it: in `key: value` the colon becomes an equals
sign, unless the key is a number. -/
def asArgument (arg : Text) : Text :=
  let key := arg.takeWhile Unicode.isWord
  match Text.trimStart (arg.dropWhile Unicode.isWord) with
  | ':' :: value =>
      if key = [] || value = [] || key.all Unicode.isDigit then arg
      else key ++ '=' :: Text.trimStart value
  | _ => arg

/-! ## Filters -/

/-- The name of a filter with arguments, and the text behind its colon; the text given is the one
behind the bar. -/
def head? (t : Text) : Option (Text × Text) :=
  let t := Text.trimStart t
  let name := t.takeWhile Unicode.isWord
  match Text.trimStart (t.dropWhile Unicode.isWord) with
  | ':' :: rest => if name = [] then none else some (name, rest)
  | _ => none

theorem length_lt_of_head? {t name rest : Text} (h : head? t = some (name, rest)) :
    rest.length < t.length := by
  simp only [head?] at h
  split at h
  · next r hr =>
      split at h
      · simp at h
      · cases h
        have h₁ := congrArg List.length hr
        have h₂ := (List.dropWhile_sublist (l := (Text.trimStart t).dropWhile Unicode.isWord)
          Text.isBlank).length_le
        have h₃ := (List.dropWhile_sublist (l := Text.trimStart t) Unicode.isWord).length_le
        have h₄ := (List.dropWhile_sublist (l := t) Text.isBlank).length_le
        simp only [Text.trimStart, Text.dropStart, List.length_cons] at h₁ h₂ h₃ h₄
        omega
  · simp at h

/-- A filter with its arguments in parentheses, before the blanks that end them. -/
def call (name args : Text) : Text :=
  ['|', ' '] ++ name ++ '(' :: Text.joinWith ", " ((split args).map asArgument) ++
    ')' :: Text.takeEnd Text.isBlank args

/-- The rewritten text, where `quote` is the quote that is open. -/
def rewrite (quote : Option Char) : Text → Text
  | [] => []
  | c :: cs =>
      match quote with
      | some q => c :: rewrite (if c = q then none else some q) cs
      | none =>
          if isQuote c then c :: rewrite (some c) cs
          else if c = '|' then
            match _h : head? cs with
            | some (name, rest) =>
                let r := breakAtTop '|' Nesting.top rest
                call name r.1 ++ rewrite none r.2
            | none => c :: rewrite none cs
          else c :: rewrite none cs
termination_by t => t.length
decreasing_by
  · exact Nat.lt_succ_self _
  · exact Nat.lt_succ_self _
  · have h₁ := length_lt_of_head? _h
    have h₂ := length_breakAtTop_le '|' Nesting.top rest
    simp only [List.length_cons]
    omega
  · exact Nat.lt_succ_self _
  · exact Nat.lt_succ_self _

/-- The text with the arguments of all its filters in parentheses; quoted text stays as it is. -/
def toCalls (t : Text) : Text :=
  rewrite none t

end FilterArguments
end Template
end LiquidMarkdown
