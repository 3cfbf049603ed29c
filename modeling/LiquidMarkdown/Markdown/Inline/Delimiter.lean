import LiquidMarkdown.Markdown.Character
import LiquidMarkdown.Markdown.Element
import LiquidMarkdown.Unicode.Punctuation

/-!
# Delimiters

Stars, underscores and tildes may open or close a stretch of running text.  Whether a run of them
can do either depends on the characters around it; which ones match is settled when the whole text
is known.  This file defines:

* `Delimiter` — one delimiter of a run;
* `Delimiter.ofRun` — what a run can do between two characters;
* `Item` — running text in pieces: finished elements, text, and delimiters;
* `Balance` — the search for the opener of each closer;
* `matchDelimiters` — the delimiters of a text, each opener with its closer.
-/

namespace LiquidMarkdown
namespace Markdown

/-! ## Delimiters -/

/-- A delimiter. -/
structure Delimiter where
  marker : Char
  /-- How many characters the delimiter takes. -/
  width : Nat := 1
  /-- The length of the run that it stands in, as far as the rule of three is concerned. -/
  runLength : Nat
  canOpen : Bool
  canClose : Bool

namespace Delimiter

/-- A delimiter as text. -/
def text (d : Delimiter) : Text :=
  List.replicate d.width d.marker

/-- What the delimiters of a run can do between two characters, where the ends of the text count
as blanks.  Only some markers may split a word. -/
def ofRun (marker : Char) (length : Nat) (before after : Char) : Delimiter :=
  let splitsWords := marker != '_'
  let leftFlanking := !isGap after &&
    (!Unicode.isPunctuation after || isGap before || Unicode.isPunctuation before)
  let rightFlanking := !isGap before &&
    (!Unicode.isPunctuation before || isGap after || Unicode.isPunctuation after)
  { marker := marker
    runLength := length
    canOpen := leftFlanking && (splitsWords || !rightFlanking || Unicode.isPunctuation before)
    canClose := rightFlanking && (splitsWords || !leftFlanking || Unicode.isPunctuation after) }

/-- The delimiter in a run that strikes text out: two characters each, without the rule of
three. -/
def striking (d : Delimiter) : Delimiter :=
  { d with width := 2, runLength := 0 }

end Delimiter

/-- A piece of running text. -/
inductive Item where
  | element (e : Element)
  | text (t : Text)
  | delimiter (d : Delimiter)

/-! ## Matching -/

/-- A delimiter among the pieces of a text. -/
structure Slot extends Delimiter where
  /-- The number of the piece. -/
  place : Nat
  /-- The number of the delimiter that closes what this one opens. -/
  closer : Option Nat := none
  deriving Inhabited

/-- What is known while delimiters are matched one after another. -/
structure Balance where
  slots : Array Slot
  /-- For each delimiter, how many before it are settled and may be skipped. -/
  jumps : Array Nat := #[]
  /-- For each kind of closer that found nothing, below which number nothing is to be found. -/
  bottoms : List ((Char × Bool × Nat) × Nat) := []
  /-- The first delimiter of the current run. -/
  header : Nat := 0
  /-- The piece before, while it belongs to the current run. -/
  lastPlace : Option Nat := none

namespace Balance

def slot (b : Balance) (i : Nat) : Slot :=
  b.slots.getD i default

def jump (b : Balance) (i : Nat) : Nat :=
  b.jumps.getD i 0

/-- Do the lengths forbid the match?  If one of the two can do both, the lengths of their runs may
not add up to a multiple of three, unless both are multiples of three. -/
def isOddMatch (opener closer : Slot) : Bool :=
  (opener.canClose || closer.canOpen) && (opener.runLength + closer.runLength) % 3 == 0 &&
    !(opener.runLength % 3 == 0 && closer.runLength % 3 == 0)

/-- The opener for a closer among the first `n` delimiters, of which the first `bottom` are not
looked at. -/
def openerBelow (b : Balance) (closer : Slot) (bottom n : Nat) : Option Nat :=
  match n with
  | 0 => none
  | i + 1 =>
      if i < bottom then none
      else
        let opener := b.slot i
        if opener.marker == closer.marker && opener.canOpen && opener.closer.isNone &&
            !isOddMatch opener closer then some i
        else b.openerBelow closer bottom (i - b.jump i)
termination_by n
decreasing_by exact Nat.lt_succ_of_le (Nat.sub_le i _)

/-- The state with an opener and its closer matched. -/
def matched (b : Balance) (i j : Nat) : Balance :=
  let skip := if 0 < i && !(b.slot (i - 1)).canOpen then b.jump (i - 1) + 1 else 0
  { b with
    slots := (b.slots.modify j fun s => { s with canOpen := false }).modify i fun s =>
      { s with closer := some j, canClose := false }
    jumps := (b.jumps.setIfInBounds j (j - i + skip)).setIfInBounds i skip
    lastPlace := none }

/-- The state after the delimiter with a number. -/
def step (b : Balance) (j : Nat) : Balance :=
  let closer := b.slot j
  let inRun := (b.slot b.header).marker == closer.marker &&
    (b.lastPlace.map (· + 1)) == some closer.place
  let b := { b with
    jumps := b.jumps.push 0
    header := if inRun then b.header else j
    lastPlace := some closer.place }
  if closer.canClose then
    let key := (closer.marker, closer.canOpen, closer.runLength % 3)
    let top := b.header - b.jump b.header
    match b.openerBelow closer ((b.bottoms.lookup key).getD 0) top with
    | some i => b.matched i j
    | none => if top = 0 then b else { b with bottoms := (key, top) :: b.bottoms }
  else b

end Balance

/-- The delimiters of a text with their places. -/
def slotsOf (items : List Item) : List Slot :=
  (items.zipIdx).filterMap fun
    | (.delimiter d, place) => some { toDelimiter := d, place := place }
    | _ => none

/-- The delimiters of a text, each opener with its closer. -/
def matchDelimiters (items : List Item) : Array Slot :=
  let slots := slotsOf items
  ((List.range slots.length).foldl Balance.step { slots := slots.toArray }).slots

end Markdown
end LiquidMarkdown
