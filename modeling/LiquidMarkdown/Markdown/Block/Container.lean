import LiquidMarkdown.Markdown.Block.Definition
import LiquidMarkdown.Markdown.Block.Leaf

/-!
# Blocks of a text

The lines of a text fall into blocks; quotations and list items hold blocks again.  This file
defines:

* `Blocks` — what some lines hold: blocks, the line behind them, and the link definitions so far;
* `Scope.quoteInterior` — the lines of a quotation without its markers;
* `Scope.itemInterior` — the lines of a list item;
* `Scope.blocksFrom` — the blocks of some lines, where the readers of what containers hold are
  given;
* `blocksWithin` — the blocks of some lines, where containers may be nested up to a depth;
* `blocksOf` — the blocks of a text with its link definitions.
-/

namespace LiquidMarkdown
namespace Markdown

open Link (Definitions)

/-- What some lines hold. -/
structure Blocks where
  elements : List Element
  next : Nat
  definitions : Definitions

/-- A reader of the blocks from a line up to another one. -/
abbrev BlockReader := Scope → (start stop : Nat) → Definitions → Blocks

namespace Scope

/-! ## Quotations -/

/-- The scope inside a quotation, whose lines up to `i` have lost their markers, and the line at
which the quotation ends.  A line without a marker goes on with a paragraph if the line before was
not empty; where it interrupts instead, no paragraph inside goes beyond it. -/
def quoteInterior (s inner : Scope) (i stop : Nat) (lastIsEmpty : Bool) : Scope × Nat :=
  if i < stop then
    let l := s.line i
    if l.isEmpty then (inner, i)
    else match (if s.isOutdented i then none else l.dropQuoteMarker?) with
      | some l => s.quoteInterior (inner.setLine i l) (i + 1) stop l.isEmpty
      | none =>
          if lastIsEmpty then (inner, i)
          else if s.interrupts .container i stop then ({ inner with limit := i }, i)
          else s.quoteInterior (inner.setLine i { l with indent := -1 }) (i + 1) stop lastIsEmpty
  else (inner, i)
termination_by stop - i

/-- The quotation that starts at a line. -/
def quote? (read : BlockReader) (s : Scope) (start stop : Nat) (ds : Definitions) :
    Option Blocks :=
  if s.isCode start then none
  else (s.line start).dropQuoteMarker?.map fun l =>
    let (inner, last) :=
      s.quoteInterior ({ s with indent := 0 }.setLine start l) (start + 1) stop l.isEmpty
    let b := read inner start last ds
    { b with elements :=
      [.node { type := "blockquote", markup := ['>'], lines := span start b.next } b.elements] }

/-! ## Lists -/

/-- The scope inside a list item; its contents are indented as far as the text behind the marker,
or by one column if that is empty or code. -/
def itemInterior (s : Scope) (m : ListMarker) (i : Nat) : Scope :=
  let l := s.line i
  let first := l.indent.toNat + m.width
  let (blanks, column) := measure l.base first (l.body.drop m.width)
  let isBare := l.text.length ≤ l.shift + m.width + blanks
  let gap := if isBare || 4 < column - first then 1 else column - first
  { s.setLine i { l with shift := l.shift + m.width + blanks, indent := column } with
    indent := first + gap
    listIndent := some s.indent }

/-- The items of a list from a line on. -/
def items (read : BlockReader) (s : Scope) (m : ListMarker) (start stop : Nat) (ds : Definitions) :
    Blocks :=
  let inner := s.itemInterior m start
  let b : Blocks :=
    if (inner.line start).isEmpty && (inner.line (start + 1)).isEmpty then
      ⟨[], min (start + 2) stop, ds⟩
    else read inner start stop ds
  let item : Element :=
    .node
      { type := "list_item", info := m.number.getD [], markup := [m.marker]
        lines := span start b.next } b.elements
  let last : Blocks := { b with elements := [item] }
  if _h : start < b.next ∧ b.next < stop then
    if s.isOutdented b.next || s.isCode b.next || s.interrupts .list b.next stop then last
    else match (ListMarker.ofText? (s.line b.next).body).filter m.isAlike with
      | some n =>
          let more := s.items read n b.next stop b.definitions
          { more with elements := item :: more.elements }
      | none => last
  else last
termination_by stop - start
decreasing_by exact Nat.sub_lt_sub_left (Nat.lt_trans _h.1 _h.2) _h.1

/-- The list that starts at a line. -/
def list? (read : BlockReader) (s : Scope) (start stop : Nat) (ds : Definitions) : Option Blocks :=
  (s.listMarker? start false).map fun m =>
    let b := s.items read m start stop ds
    let number := m.number.map decimalNumber
    { b with elements :=
      [.node
        { type := if m.number.isSome then "ordered_list" else "bullet_list"
          attributes := match number with
            | some n => if n = 1 then [] else [("start", .number n 0)]
            | none => []
          markup := [m.marker]
          lines := span start b.next } b.elements] }

/-! ## Sequences of blocks -/

/-- The block that starts at a line that is not empty. -/
def block (quotes items : BlockReader) (s : Scope) (start stop : Nat) (ds : Definitions) : Blocks :=
  let leaf (found : Option (Element × Nat)) : Option Blocks :=
    found.map fun (e, next) => ⟨[e], next, ds⟩
  let definition : Option Blocks :=
    (s.definition? start).map fun (d, next) => ⟨[], next, ds.add d.label d.target⟩
  let found :=
    (leaf (s.table? start stop)).or <| (leaf (s.code? start stop)).or <|
    (leaf (s.fenced? start stop)).or <| (s.quote? quotes start stop ds).or <|
    (leaf (s.dividerBlock? start)).or <| (s.list? items start stop ds).or <|
    definition.or <| (leaf (s.htmlBlock? start stop)).or <|
    (leaf (s.headingBlock? start)).or <| (leaf (s.underlined? start stop))
  match found with
  | some b => b
  | none =>
      let (e, next) := s.paragraph start
      ⟨[e], next, ds⟩

/-- The line behind a block, or behind the empty line that follows it. -/
def behindBlock (s : Scope) (next stop : Nat) : Nat :=
  if next < stop && (s.line next).isEmpty then next + 1 else next

theorem le_behindBlock (s : Scope) (next stop : Nat) : next ≤ s.behindBlock next stop := by
  simp only [behindBlock]
  split <;> omega

/-- The blocks from a line up to another one.  They end early where a line is indented less than
the contents of the container. -/
def blocksFrom (quotes items : BlockReader) (s : Scope) (start stop : Nat) (ds : Definitions) :
    Blocks :=
  if start < stop then
    let line := s.skipEmpty start
    if line < stop && !s.isOutdented line then
      let b := s.block quotes items line stop ds
      let next := s.behindBlock (max b.next (line + 1)) stop
      let more := s.blocksFrom quotes items next stop b.definitions
      { more with elements := b.elements ++ more.elements }
    else ⟨[], line, ds⟩
  else ⟨[], start, ds⟩
termination_by stop - start
decreasing_by
  have h₁ : start < line + 1 := Nat.lt_succ_of_le (Nat.le_add_right _ _)
  have h₂ : start < max b.next (line + 1) := Nat.lt_of_lt_of_le h₁ (Nat.le_max_right _ _)
  exact Nat.sub_lt_sub_left ‹_› (Nat.lt_of_lt_of_le h₂ (s.le_behindBlock _ stop))

end Scope

/-! ## Nesting -/

/-- How deep containers may be nested, where a list and its items are two containers. -/
def nestingLimit : Nat := 20

/-- The end of the lines, where nothing may be nested any more. -/
def noBlocks : BlockReader := fun s start stop ds =>
  let line := s.skipEmpty start
  ⟨[], if line < stop && !s.isOutdented line then stop else line, ds⟩

/-- The blocks of some lines, where containers may be nested up to a depth. -/
def blocksWithin : (depth : Nat) → BlockReader
  | 0 => noBlocks
  | 1 => Scope.blocksFrom noBlocks noBlocks
  | depth + 2 => Scope.blocksFrom (blocksWithin (depth + 1)) (blocksWithin depth)

/-- The blocks of a text and its link definitions. -/
def blocksOf (t : Text) : Blocks :=
  let lines := (Line.all t).toArray
  let s : Scope := { lines := lines, limit := lines.size }
  blocksWithin nestingLimit s 0 lines.size []

end Markdown
end LiquidMarkdown
