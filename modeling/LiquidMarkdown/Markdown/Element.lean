import LiquidMarkdown.Document.Datum

/-!
# Markdown elements

What a Markdown text consists of: blocks, and in the blocks that hold running text, the inline
elements of that text.  This file defines:

* `Element.Head` — what an element is, apart from its children;
* `Element` — an element with its children;
* `Element.leaf`, `Element.text` — elements without children;
* the names of the types of elements that are told apart later.
-/

namespace LiquidMarkdown
namespace Markdown

/-- What an element is, apart from its children. -/
structure Element.Head where
  type : Text
  attributes : Data := []
  /-- What stands behind an opening marker, such as the language of a fenced text. -/
  info : Text := []
  /-- The characters that mark the element. -/
  markup : Text := []
  /-- The text of an element that is kept as it is. -/
  content : Text := []
  /-- The rank of a heading. -/
  depth : Nat := 0
  /-- The first line of a block, and the line behind its last one, counted from zero. -/
  lines : Option (Int × Int) := none

/-- An element of a Markdown text. -/
inductive Element where
  | node (head : Element.Head) (children : List Element)

namespace Element

instance : Inhabited Element := ⟨node { type := [] } []⟩

def head : Element → Head
  | node h _ => h

def children : Element → List Element
  | node _ cs => cs

/-! ## Types -/

/-- The type of the whole. -/
def rootType : Text := "root"

/-- The type of plain text. -/
def textType : Text := "text"

/-- The type of a character that was written as an escape or as a reference. -/
def specialType : Text := "text_special"

/-- The type of a line break in running text. -/
def softBreakType : Text := "softbreak"

/-- The type of a line break that is kept. -/
def hardBreakType : Text := "hardbreak"

/-- The type of running text: its children are inline elements. -/
def inlineType : Text := "inline"

/-- The type of headings. -/
def headingType : Text := "heading"

/-- The type of pictures. -/
def imageType : Text := "image"

/-- The types of elements whose content is kept as it is. -/
def literalTypes : List Text :=
  ["code_inline", "code_block", "fence", "html_block", "html_inline"]

/-! ## Construction -/

/-- An element without children. -/
def leaf (h : Head) : Element :=
  node h []

/-- Plain text. -/
def text (t : Text) : Element :=
  leaf { type := textType, content := t }

/-- The text of plain text. -/
def text? : Element → Option Text
  | node h _ => if h.type = textType then some h.content else none

/-- Running text that is still to be read. -/
def running (t : Text) : Element :=
  leaf { type := inlineType, content := t }

end Element
end Markdown
end LiquidMarkdown
