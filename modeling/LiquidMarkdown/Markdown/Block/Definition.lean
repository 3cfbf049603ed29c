import LiquidMarkdown.Markdown.Block.Interrupt
import LiquidMarkdown.Markdown.Link

/-!
# Link definitions

A link definition gives a label to a target: the label in brackets, a colon, the destination, and
perhaps a title.  Between the parts there may be blanks and one line feed.  This file defines:

* `Definition` — a label with its target;
* `Definition.read?` — the definition with which a text begins, and the rest of its last line;
* `Scope.definition?` — the definition that starts at a line, and the line behind it.
-/

namespace LiquidMarkdown
namespace Markdown

/-- A label, in normal form, with its target. -/
structure Definition where
  label : Text
  target : Link.Target

namespace Definition

/-- The length of a label: up to the first bracket that no backslash protects, which must be a
closing one. -/
def labelLength? : Text → Option Nat
  | [] => none
  | '\\' :: _ :: t => (labelLength? t).map (· + 2)
  | c :: t =>
      if c = '[' then none
      else if c = ']' then some 0
      else (labelLength? t).map (· + 1)

/-- A line up to its line feed, and what follows. -/
def splitLine (t : Text) : Text × Text :=
  let line := t.takeWhile (· != '\n')
  (line ++ (t.drop line.length).take 1, t.drop (line.length + 1))

/-- The rest of the line, if there is nothing but blanks before it ends. -/
def lineEnd? (t : Text) : Option Text :=
  match t.dropWhile isSpace with
  | [] => some []
  | '\n' :: u => some ('\n' :: u)
  | _ => none

/-- The title behind a destination and the rest of its line.  Without blanks before it, or with
something behind it, it is no title, and nothing may follow the destination. -/
def titleAndEnd? (t : Text) : Option (Text × Text) :=
  let u := t.dropWhile isSpaceOrBreak
  let title? := if u.length < t.length then Link.title? u else none
  match title? with
  | some (title, rest) => match lineEnd? rest with
      | some rest => some (title, rest)
      | none => if title = [] then none else (lineEnd? t).map fun rest => ([], rest)
  | none => (lineEnd? t).map fun rest => ([], rest)

/-- The definition with which a text begins, and what is left behind it.  A backslash at the end of
the destination's line takes the line feed into the destination, and the definition ends there. -/
def read? : Text → Option (Definition × Text)
  | '[' :: t => do
      let n ← labelLength? t
      let label := Link.normalizeLabel (t.take n)
      let t ← Text.dropPrefix? "]:" (t.drop n)
      let (line, more) := splitLine (t.dropWhile isSpaceOrBreak)
      let (destination, rest) ← Link.destination? line
      let address ← Link.address? destination
      let (title, rest) ← match rest, line.getLast? with
        | [], some '\n' => some ([], '\n' :: more)
        | _, _ => titleAndEnd? (rest ++ more)
      if label = [] then none
      return (⟨label, ⟨address, title⟩⟩, rest)
  | _ => none

end Definition

namespace Scope

/-- The definition that starts at a line, and the line behind it. -/
def definition? (s : Scope) (start : Nat) : Option (Definition × Nat) := do
  if s.isCode start then none
  let stop := s.runEnd .definition (start + 1) s.limit
  let t := (List.range (stop - start)).flatMap fun k => (s.line (start + k)).bodyWithBreak
  let (d, rest) ← Definition.read? t
  let used := t.take (t.length - rest.length)
  return (d, start + 1 + used.count '\n')

end Scope
end Markdown
end LiquidMarkdown
