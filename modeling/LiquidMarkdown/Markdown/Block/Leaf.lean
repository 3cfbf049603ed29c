import LiquidMarkdown.Markdown.Block.Interrupt

/-!
# Blocks without blocks inside

Each function finds the block of one kind that starts at a line, and the line behind it.  This file
defines:

* `Scope.table?`, `Scope.code?`, `Scope.fenced?`, `Scope.dividerBlock?`, `Scope.htmlBlock?`,
  `Scope.headingBlock?`, `Scope.underlined?` — the blocks that may or may not start at a line;
* `Scope.paragraph` — the block that starts where no other does.
-/

namespace LiquidMarkdown
namespace Markdown
namespace Scope

/-- The lines of a block. -/
def span (start stop : Nat) : Option (Int × Int) :=
  some (start, stop)

/-! ## Literal texts -/

/-- The line behind the code that starts before a line: empty lines belong to it only where code
follows; `last` is the line behind the code found so far. -/
def codeEnd (s : Scope) (i stop last : Nat) : Nat :=
  if i < stop then
    if (s.line i).isEmpty then s.codeEnd (i + 1) stop last
    else if s.isCode i then s.codeEnd (i + 1) stop (i + 1)
    else last
  else last
termination_by stop - i

/-- The block of indented code that starts at a line. -/
def code? (s : Scope) (start stop : Nat) : Option (Element × Nat) :=
  if s.isCode start then
    let last := s.codeEnd (start + 1) stop (start + 1)
    some (.leaf
      { type := "code_block"
        content := s.content start last (s.indent + 4) false ++ ['\n']
        lines := span start last }, last)
  else none

/-- The line at which a fenced text ends, and whether it is closed there. -/
def fencedEnd (s : Scope) (f : Fence) (i stop : Nat) : Nat × Bool :=
  if i < stop then
    let l := s.line i
    if !l.isEmpty && s.isOutdented i || l.isBehindEnd then (i, false)
    else if !s.isCode i && f.isClosedBy l.body then (i, true)
    else s.fencedEnd f (i + 1) stop
  else (i, false)
termination_by stop - i

/-- The fenced text that starts at a line. -/
def fenced? (s : Scope) (start stop : Nat) : Option (Element × Nat) :=
  (s.fence? start).map fun f =>
    let (last, closed) := s.fencedEnd f (start + 1) stop
    let next := if closed then last + 1 else last
    (.leaf
      { type := "fence"
        info := f.info
        markup := List.replicate f.length f.marker
        content := s.content (start + 1) last (s.line start).indent.toNat true
        lines := span start next }, next)

/-- The line behind the block of HTML that starts before a line.  However little it is indented, an
empty line belongs to the block unless it stops it. -/
def htmlEnd (s : Scope) (k : Html.BlockKind) (i stop : Nat) : Nat :=
  if i < stop then
    let t := (s.line i).body
    if t ≠ [] && s.isOutdented i then i
    else if k.stops t then (if t = [] then i else i + 1)
    else s.htmlEnd k (i + 1) stop
  else i
termination_by stop - i

/-- The block of HTML that starts at a line. -/
def htmlBlock? (s : Scope) (start stop : Nat) : Option (Element × Nat) :=
  (s.html? start).map fun k =>
    let next :=
      if k.stops (s.line start).body then start + 1 else s.htmlEnd k (start + 1) stop
    (.leaf
      { type := "html_block"
        content := s.content start next s.indent true
        lines := span start next }, next)

/-! ## Dividers and headings -/

/-- The divider in a line. -/
def dividerBlock? (s : Scope) (start : Nat) : Option (Element × Nat) :=
  (s.divider? start).map fun d =>
    (.leaf
      { type := "hr"
        markup := List.replicate (d.count + 1) d.marker
        lines := span start (start + 1) }, start + 1)

/-- A heading with its title. -/
def headingElement (depth : Nat) (markup title : Text) (start next : Nat) : Element :=
  .node { type := Element.headingType, markup := markup, depth := depth, lines := span start next }
    [.running title]

/-- The heading behind number signs in a line. -/
def headingBlock? (s : Scope) (start : Nat) : Option (Element × Nat) :=
  (s.heading? start).map fun h =>
    (headingElement h.depth (List.replicate h.depth '#') h.title start (start + 1), start + 1)

/-- The character with which a line underlines what comes before it. -/
def underline? (s : Scope) (i : Nat) : Option Char :=
  match (s.line i).body with
  | c :: t =>
      if !s.isOutdented i && (c = '=' || c = '-') && (t.dropWhile (· = c)).all isSpace then some c
      else none
  | [] => none

/-- The line that underlines the text which starts before a line, and its character. -/
def underlineBelow? (s : Scope) (i stop : Nat) : Option (Nat × Char) :=
  if i < stop then
    let l := s.line i
    if l.isEmpty then none
    else if s.isCode i then s.underlineBelow? (i + 1) stop
    else match s.underline? i with
      | some c => some (i, c)
      | none =>
          if l.indent < 0 || !s.interrupts .paragraph i stop then s.underlineBelow? (i + 1) stop
          else none
  else none
termination_by stop - i

/-- The underlined heading that starts at a line. -/
def underlined? (s : Scope) (start stop : Nat) : Option (Element × Nat) :=
  if s.isCode start then none
  else (s.underlineBelow? (start + 1) stop).map fun (i, c) =>
    (headingElement (if c = '=' then 1 else 2) [c]
      (trimPadding (s.content start i s.indent false)) start (i + 1), i + 1)

/-! ## Tables and paragraphs -/

/-- The lines of a table from a line on; `room` more cells may be filled up. -/
def tableRows (s : Scope) (header : Table.Header) (i stop : Nat) (room : Int) : List Element :=
  if i < stop then
    let t := trimPadding (s.line i).body
    let cells := Table.cells t
    let room := room - ((header.titles.length : Int) - cells.length)
    if s.isOutdented i || s.interrupts .container i stop || t = [] || s.isCode i || room < 0 then []
    else Table.rowElement "td" header cells i :: s.tableRows header (i + 1) stop room
  else []
termination_by stop - i

/-- The table that starts at a line. -/
def table? (s : Scope) (start stop : Nat) : Option (Element × Nat) :=
  (s.tableHeader? start stop).map fun header =>
    let rows := s.tableRows header (start + 2) stop Table.fillLimit
    let next := start + 2 + rows.length
    let body : List Element :=
      if rows.isEmpty then []
      else [.node { type := "tbody", lines := span (start + 2) next } rows]
    (.node { type := "table", lines := span start next }
      (Table.headElement header start :: body), next)

/-- The paragraph that starts at a line. -/
def paragraph (s : Scope) (start : Nat) : Element × Nat :=
  let next := s.runEnd .paragraph (start + 1) s.limit
  (.node { type := "paragraph", lines := span start next }
    [.running (trimPadding (s.content start next s.indent false))], next)

end Scope
end Markdown
end LiquidMarkdown
