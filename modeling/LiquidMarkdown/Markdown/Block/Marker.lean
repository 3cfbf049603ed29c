import LiquidMarkdown.Markdown.Line

/-!
# Markers of blocks

What the first characters of a line say about the block that starts there.  This file defines:

* `Fence` — the run of tildes or backticks that opens a fenced text;
* `Divider` — a line of stars, hyphens or underscores;
* `AtxHeading` — a heading behind number signs;
* `ListMarker` — the bullet or the number of a list item;
* `Line.dropQuoteMarker?` — a line without the angle bracket of a quotation.
-/

namespace LiquidMarkdown
namespace Markdown

/-! ## Fences -/

/-- The run of characters that opens a fenced text. -/
structure Fence where
  marker : Char
  length : Nat
  /-- What stands behind the run. -/
  info : Text

namespace Fence

/-- The fence in a line: three tildes or backticks at least, no backticks behind backticks. -/
def ofText? : Text → Option Fence
  | [] => none
  | c :: t =>
      let run := t.takeWhile (· = c)
      let info := t.drop run.length
      if (c = '~' || c = '`') && 2 ≤ run.length && !(c = '`' && info.contains '`') then
        some ⟨c, run.length + 1, info⟩
      else none

/-- Does a line close the fenced text? -/
def isClosedBy (f : Fence) (t : Text) : Bool :=
  let run := t.takeWhile (· = f.marker)
  f.length ≤ run.length && (t.drop run.length).all isSpace

end Fence

/-! ## Dividers -/

/-- A line that divides. -/
structure Divider where
  marker : Char
  count : Nat

/-- The divider in a line: one character three times at least, and blanks. -/
def Divider.ofText? : Text → Option Divider
  | [] => none
  | c :: t =>
      if (c = '*' || c = '-' || c = '_') && t.all (fun d => d = c || isSpace d) &&
          2 ≤ t.count c then
        some ⟨c, t.count c + 1⟩
      else none

/-! ## Headings -/

/-- A heading behind number signs. -/
structure AtxHeading where
  depth : Nat
  title : Text

namespace AtxHeading

/-- The title without the number signs that close it, which stand behind a blank. -/
def withoutClosing (t : Text) : Text :=
  let t := Text.dropEnd isSpace t
  let u := Text.dropEnd (· = '#') t
  match u.getLast? with
  | some c => if isSpace c then u else t
  | none => t

/-- The heading in a line. -/
def ofText? (t : Text) : Option AtxHeading :=
  let depth := (t.takeWhile (· = '#')).length
  let rest := t.drop depth
  if 1 ≤ depth && depth ≤ 6 && ((rest.take 1).all isSpace) then
    some ⟨depth, trimPadding (withoutClosing rest)⟩
  else none

end AtxHeading

/-! ## Lists -/

/-- The bullet or the number of a list item. -/
structure ListMarker where
  /-- The digits of a number. -/
  number : Option Text
  /-- The bullet, or the character behind the number. -/
  marker : Char

namespace ListMarker

/-- How many characters the marker takes. -/
def width (m : ListMarker) : Nat :=
  (m.number.map List.length).getD 0 + 1

/-- May two items belong to one list? -/
def isAlike (m n : ListMarker) : Bool :=
  m.number.isSome == n.number.isSome && m.marker == n.marker

/-- The marker with which a line begins; a blank or the end of the line must follow. -/
def ofText? (t : Text) : Option ListMarker :=
  let digits := t.takeWhile Char.isDigit
  match t.drop digits.length with
  | [] => none
  | c :: rest =>
      let isBullet := digits = [] && (c = '*' || c = '-' || c = '+')
      let isNumber := digits ≠ [] && digits.length ≤ 9 && (c = '.' || c = ')')
      if (isBullet || isNumber) && ((rest.take 1).all isSpace) then
        some ⟨if isNumber then some digits else none, c⟩
      else none

end ListMarker

/-! ## Quotations -/

/-- The line without the angle bracket with which it begins and the blank behind that. -/
def Line.dropQuoteMarker? (l : Line) : Option Line :=
  match l.body with
  | '>' :: rest =>
      let column := l.indent.toNat + 1
      let inner (t : Text) (start tab blank : Nat) : Line :=
        let (shift, stop) := measure (l.base + tab) start t
        { l with
          text := t
          shift := shift
          indent := (stop : Int) - start
          base := column + blank }
      match rest with
      | ' ' :: t => some (inner t (column + 1) 0 1)
      | '\t' :: t =>
          if (l.base + column) % 4 = 3 then some (inner t (column + 1) 0 1)
          else some (inner rest column 1 1)
      | t => some (inner t column 0 0)
  | _ => none

end Markdown
end LiquidMarkdown
