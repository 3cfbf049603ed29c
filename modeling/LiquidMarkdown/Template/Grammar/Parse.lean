import LiquidMarkdown.Template.Token
import LiquidMarkdown.Template.Tree

/-!
# Reading token lists

The state of a reader is the list of tokens that are left; its head is the current token.  This
file defines:

* `Parse` — readers, and `Parse.current`, `Parse.peek`, `Parse.advance`;
* `Want` — what a reader asks of a token, `Parse.accept?`, `Parse.expect`;
* `Parse.iterate` — repetition, each round of which takes a token;
* `Parse.recursive` — mutual recursion, each call of which has fewer tokens than its caller.

The last two need no bound from outside: they stop with a problem where a round or a call has taken
nothing.  The rounds and calls of the grammar always take a token, so that no source comes to this
problem.
-/

namespace LiquidMarkdown
namespace Template

/-- A reader of tokens. -/
abbrev Parse := StateT (List Token) (Except Problem)

/-- What is asked of a token. -/
inductive Want where
  | anyName
  | word (t : Text)
  | operator (o : Operator)
  | blockEnd
  | variableEnd
  deriving DecidableEq, Repr

namespace Want

/-- Is the token what is asked for? -/
def accepts : Want → Token.Kind → Bool
  | anyName, .name _ => true
  | word t, .name u => t == u
  | operator o, .operator p => o == p
  | blockEnd, .blockEnd => true
  | variableEnd, .variableEnd => true
  | _, _ => false

/-- The word for what is asked, in messages. -/
def describe : Want → Text
  | anyName => "name"
  | word t => t
  | operator o => o.symbol
  | blockEnd => Token.Kind.blockEnd.describe
  | variableEnd => Token.Kind.variableEnd.describe

end Want

namespace Parse

/-! ## Single tokens -/

/-- The token that stands for a list without tokens. -/
def nothing : Token := ⟨1, .eof⟩

/-- The current token. -/
def current : Parse Token := fun ts => .ok (ts.headD nothing, ts)

/-- The kind of the current token. -/
def kind : Parse Token.Kind := return (← current).kind

/-- The line of the current token. -/
def line : Parse Nat := return (← current).line

/-- Stop with a problem on a given line. -/
def failAt {α : Type} (line : Nat) (cause : Problem.Cause) : Parse α :=
  throw ⟨line, cause⟩

/-- Stop with a problem on the current line. -/
def fail {α : Type} (cause : Problem.Cause) : Parse α := do
  failAt (← line) cause

/-- The list, unless its head is the scanner's fault. -/
def checked : List Token → Except Problem (List Token)
  | ⟨line, .fault cause⟩ :: _ => .error ⟨line, cause⟩
  | ts => .ok ts

/-- Take the current token and go on to the next; the last token stays. -/
def advance : Parse Token
  | t :: u :: ts => (checked (u :: ts)).map fun rest => (t, rest)
  | ts => .ok (ts.headD nothing, ts)

/-- The kind of the token behind the current one. -/
def peek : Parse Token.Kind
  | t :: u :: ts => (checked (u :: ts)).map fun _ => (u.kind, t :: u :: ts)
  | ts => .ok ((ts.headD nothing).kind, ts)

/-- Is the current token what is asked for? -/
def sees (w : Want) : Parse Bool := return w.accepts (← kind)

/-- Take the current token if it is what is asked for. -/
def accept? (w : Want) : Parse (Option Token) := do
  if ← sees w then return some (← advance) else return none

/-- Take the current token if it is what is asked for; was it? -/
def accept (w : Want) : Parse Bool := return (← accept? w).isSome

/-- Take the current token, which has to be what is asked for. -/
def expect (w : Want) : Parse Token := do
  match ← accept? w with
  | some t => return t
  | none => match ← kind with
    | .eof => fail (.expectedAtEnd w.describe)
    | k => fail (.expected w.describe k.describe)

/-- Take a name: its line and its text. -/
def expectName : Parse (Nat × Text) := do
  let t ← expect .anyName
  return (t.line, t.kind.describe)

/-! ## Repetition and recursion -/

/-- Repeat a reader until it comes to an end; every round takes a token. -/
def iterate {α β : Type} (round : α → Parse (α ⊕ β)) (a : α) : Parse β := fun ts =>
  match round a ts with
  | .error p => .error p
  | .ok (.inr b, rest) => .ok (b, rest)
  | .ok (.inl b, rest) =>
      if rest.length < ts.length then iterate round b rest
      else .error ⟨(rest.headD nothing).line, .stalled⟩
termination_by ts => ts.length

/-- A reader that calls itself, each time with fewer tokens. -/
def recursive {ι α : Type} (rule : (ι → Parse α) → ι → Parse α) (i : ι) : Parse α := fun ts =>
  rule (fun j rest =>
    if rest.length < ts.length then recursive rule j rest
    else .error ⟨(rest.headD nothing).line, .stalled⟩) i ts
termination_by ts => ts.length

/-- Read a whole token list. -/
def run {α : Type} (p : Parse α) (ts : List Token) : Except Problem α := do
  let (a, _) ← p (← checked ts)
  return a

end Parse
end Template
end LiquidMarkdown
