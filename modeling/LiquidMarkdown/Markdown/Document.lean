import LiquidMarkdown.Document.Node
import LiquidMarkdown.Markdown.Locate
import LiquidMarkdown.Markdown.Parse
import LiquidMarkdown.Source.LineIndex

/-!
# Markdown texts as documents

The elements of a Markdown text become a document whose texts know where they stand in the source.
Texts are looked up from left to right, each behind the one before and none behind the end of its
block.  This file defines:

* `Element.Head.data` — what a node carries over from its element;
* `Walk` — the source with its index, and the end of the innermost block;
* `Walk.textNode` — a text with its place;
* `Walk.node`, `Walk.blockNodes`, `Walk.inlineNodes` — elements as nodes, with the place behind
  what was found last;
* `Node.ofElement` — the document of any element;
* `Node.ofMarkdown` — the document of a text.

The texts and line breaks of a block that follow each other are one text.
-/

namespace LiquidMarkdown
namespace Markdown

/-! ## Data -/

namespace Element.Head

/-- Is the content of the element kept as it is? -/
def isLiteral (h : Head) : Bool :=
  literalTypes.contains h.type

/-- Is the element a line break? -/
def isBreak (h : Head) : Bool :=
  h.type = softBreakType || h.type = hardBreakType

/-- What a node carries over from its element: its attributes, what stands behind its marker, and
the marker. -/
def data (h : Head) : Data :=
  let d := h.attributes
  let d := if h.info = [] then d else d.put "info" (.text h.info)
  if h.markup = [] then d else d.put "markup" (.text h.markup)

/-- The data of a node with children: headings have a rank. -/
def branchData (h : Head) : Data :=
  if h.type = headingType then h.data.put "depth" (.number h.depth 0) else h.data

end Element.Head

/-! ## Nodes -/

/-- A source with its index, and the end of the innermost block. -/
structure Walk where
  index : LineIndex
  limit : Nat

namespace Walk

/-- The walk through a whole source. -/
def ofText (source : Text) : Walk :=
  ⟨.ofText source, source.length⟩

/-- The offset map of a text, and the place behind it. -/
def locate? (w : Walk) (t : Text) (cursor : Nat) : Option (OffsetMap × Nat) :=
  Markdown.locate? w.index.source w.limit t cursor

/-- A text with its place, if it is found, and the place behind it. -/
def textNode (w : Walk) (t : Text) (cursor : Nat) : Node × Nat :=
  let l : Label := { type := Label.textType, value := some t }
  match w.locate? t cursor with
  | none => (.leaf l, cursor)
  | some (m, cursor) =>
      let data : Data := if m.isContiguous then [] else [(Data.offsetsKey, .offsets m)]
      let position := (m.span? 0 t.length).map fun (start, stop) => w.index.position start stop
      (.leaf { l with position := position, data := data }, cursor)

/-- A text with its place, if there is one. -/
def textNodes (w : Walk) (t : Option Text) (cursor : Nat) : List Node × Nat :=
  match t with
  | none => ([], cursor)
  | some t =>
      let (n, cursor) := w.textNode t cursor
      ([n], cursor)

/-- The place behind a text, if it is found. -/
def passOver (w : Walk) (t : Text) (cursor : Nat) : Nat :=
  ((w.locate? t cursor).map (·.2)).getD cursor

/-- The position of a block, and the later one of its start and the cursor. -/
def blockPosition (w : Walk) (h : Element.Head) (cursor : Nat) : Option Position × Nat :=
  match h.lines with
  | none => (none, cursor)
  | some (first, last) =>
      let start := w.index.lineOffset first
      let stop := w.index.lineOffset last
      (some (w.index.position start (max start stop)), max cursor start)

/-- The walk inside a block. -/
def inside (w : Walk) (position : Option Position) : Walk :=
  match position with
  | none => w
  | some p => { w with limit := p.stop.offset.toNat }

/-- The text that an element of a block contributes to a run of text. -/
def runText? (h : Element.Head) : Option Text :=
  if h.type = Element.textType then some h.content
  else if h.type = Element.softBreakType then some ['\n']
  else none

mutual

/-- An element as a node. -/
def node (w : Walk) (cursor : Nat) : Element → Node × Nat
  | .node h cs =>
      let (position, cursor) := w.blockPosition h cursor
      if h.isLiteral then
        (.leaf { type := h.type, value := some h.content, position := position, data := h.data },
          if position.isNone then w.passOver h.content cursor else cursor)
      else if h.type = Element.textType then w.textNode h.content cursor
      else if h.isBreak then
        (.leaf { type := h.type, value := some ['\n'], data := h.data }, cursor)
      else
        let (children, cursor) := (w.inside position).blockNodes cursor cs
        (.branch { type := h.type, position := position, data := h.branchData } children, cursor)

/-- The nodes of the children of a block. -/
def blockNodes (w : Walk) (cursor : Nat) : List Element → List Node × Nat
  | [] => ([], cursor)
  | .node h ks :: cs =>
      let (first, cursor) :=
        if h.type = Element.inlineType then w.inlineNodes none cursor ks
        else
          let (n, cursor) := w.node cursor (.node h ks)
          ([n], cursor)
      let (rest, cursor) := w.blockNodes cursor cs
      (first ++ rest, cursor)

/-- The nodes of running text behind a run of text. -/
def inlineNodes (w : Walk) (run : Option Text) (cursor : Nat) : List Element → List Node × Nat
  | [] => w.textNodes run cursor
  | .node h ks :: cs =>
      match runText? h with
      | some t => w.inlineNodes (some (run.getD [] ++ t)) cursor cs
      | none =>
          let (before, cursor) := w.textNodes run cursor
          let (n, cursor) := w.node cursor (.node h ks)
          let (rest, cursor) := w.inlineNodes none cursor cs
          (before ++ n :: rest, cursor)

end

end Walk
end Markdown

namespace Node

open Markdown

/-- The document of an element whose children are the blocks of a source. -/
def ofElement (source : Text) (e : Element) : Node :=
  let w := Walk.ofText source
  .branch { type := Element.rootType, position := some (w.index.position 0 source.length) }
    (w.blockNodes 0 e.children).1

/-- The document of a Markdown text. -/
def ofMarkdown (source : Text) : Node :=
  ofElement source (Element.ofText source)

end Node
end LiquidMarkdown
