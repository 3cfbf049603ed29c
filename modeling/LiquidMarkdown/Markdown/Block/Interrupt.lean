import LiquidMarkdown.Markdown.Block.Marker
import LiquidMarkdown.Markdown.Block.Table
import LiquidMarkdown.Markdown.Html

/-!
# Where blocks end early

A block that goes on line by line ends where another block starts that may follow it without an
empty line.  This file defines:

* `Scope.fence?`, `Scope.heading?`, … — the block that starts at a line, by kind;
* `Scope.listMarker?` — the item that starts at a line;
* `Running` — the kinds of blocks that go on line by line;
* `Scope.interrupts` — does a line end such a block?
-/

namespace LiquidMarkdown
namespace Markdown

/-- The kinds of blocks that go on line by line. -/
inductive Running where
  | paragraph
  | definition
  /-- A quotation or a table. -/
  | container
  | list
  deriving DecidableEq, Repr

namespace Scope

/-! ## Starts of blocks -/

/-- What a function finds in a line that is not indented like code. -/
def startAt? {α : Type} (f : Text → Option α) (s : Scope) (i : Nat) : Option α :=
  if s.isCode i then none else f (s.line i).body

/-- The fence in a line. -/
def fence? : Scope → Nat → Option Fence :=
  startAt? Fence.ofText?

/-- The divider in a line. -/
def divider? : Scope → Nat → Option Divider :=
  startAt? Divider.ofText?

/-- The heading in a line. -/
def heading? : Scope → Nat → Option AtxHeading :=
  startAt? AtxHeading.ofText?

/-- The kind of HTML block that a line starts. -/
def html? : Scope → Nat → Option Html.BlockKind :=
  startAt? Html.BlockKind.ofLine?

/-- Does a quotation start at a line? -/
def startsQuote (s : Scope) (i : Nat) : Bool :=
  (startAt? (fun t => if Text.startsWith [ '>' ] t then some () else none) s i).isSome

/-- Does a line belong to an item further out, because it is indented too far for that list and
not far enough for this one? -/
def continuesItem (s : Scope) (i : Nat) : Bool :=
  match s.listIndent with
  | some n => (n : Int) + 4 ≤ (s.line i).indent && s.isOutdented i
  | none => false

/-- The list item that starts at a line.  Behind a paragraph, a new list starts with the number one
and with some text. -/
def listMarker? (s : Scope) (i : Nat) (behindParagraph : Bool) : Option ListMarker :=
  if s.continuesItem i then none
  else (startAt? ListMarker.ofText? s i).filter fun m =>
    !(behindParagraph && !s.isOutdented i) ||
      ((m.number.map decimalNumber).getD 1 == 1 &&
        !((s.line i).body.drop m.width).all isSpace)

/-! ## Interruptions -/

/-- Does a line end a block of a kind that goes on up to `stop`? -/
def interrupts (s : Scope) (r : Running) (i stop : Nat) : Bool :=
  (s.fence? i).isSome || s.startsQuote i || (s.divider? i).isSome ||
    (r != .list &&
      ((s.listMarker? i (r == .paragraph)).isSome ||
        (s.html? i).any Html.BlockKind.interrupts || (s.heading? i).isSome)) ||
    ((r == .paragraph || r == .definition) && (s.tableHeader? i stop).isSome)

/-- The line at which running text that starts before a line ends: at an empty line or where it is
interrupted.  A line that is indented like code does not interrupt, nor does one that merely
continues a paragraph. -/
def runEnd (s : Scope) (r : Running) (i stop : Nat) : Nat :=
  if i < stop then
    let l := s.line i
    if l.isEmpty then i
    else if (s.isCode i || l.indent < 0) || !s.interrupts r i stop then s.runEnd r (i + 1) stop
    else i
  else i
termination_by stop - i

end Scope
end Markdown
end LiquidMarkdown
