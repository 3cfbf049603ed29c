import LiquidMarkdown.Text.Basic

/-!
# Rewriting

A rule looks at the start of a text and may replace what stands there.  `rewriteAll` applies a rule
from left to right; replaced text is not looked at again.

* `Rule` — a rule, which takes at least one character when it applies;
* `rewriteAll` — the text with the rule applied everywhere.
-/

namespace LiquidMarkdown
namespace Template

/-- What stands in place of the start of a text, and the rest. -/
structure Replacement (t : Text) where
  new : Text
  rest : Text
  shorter : rest.length < t.length

/-- A rule for the start of a text. -/
abbrev Rule := (t : Text) → Option (Replacement t)

/-- A rule from a function that need not take anything: then it does not apply. -/
def Rule.ofFunction (f : Text → Option (Text × Text)) : Rule := fun t =>
  match f t with
  | some (new, rest) => if h : rest.length < t.length then some ⟨new, rest, h⟩ else none
  | none => none

/-- The text with the rule applied wherever it does, from left to right. -/
def rewriteAll (rule : Rule) : Text → Text
  | [] => []
  | c :: cs => match rule (c :: cs) with
      | some r => r.new ++ rewriteAll rule r.rest
      | none => c :: rewriteAll rule cs
termination_by t => t.length
decreasing_by
  · exact r.shorter
  · exact Nat.lt_succ_self _

end Template
end LiquidMarkdown
