import LiquidMarkdown.Markdown.Block.Container
import LiquidMarkdown.Markdown.Inline.Items
import LiquidMarkdown.Text.Lines

/-!
# Markdown texts as elements

* `normalize` — a text with line feeds as its only line ends, and without null characters;
* `Element.read` — a block with its running texts read;
* `Element.ofText` — the elements of a text.
-/

namespace LiquidMarkdown
namespace Markdown

/-- Carriage returns, alone or before a line feed, become line feeds; a null character is
replaced. -/
def normalize (t : Text) : Text :=
  (Text.normalizeNewlines t).map fun c => if c.toNat = 0 then replacement else c

namespace Element

mutual

/-- A block with its running texts read. -/
def read (ds : Link.Definitions) : Element → Element
  | node h cs =>
      if h.type = inlineType then node h (joinSpecialsAll true (inlineElements ds h.content))
      else node h (readAll ds cs)

def readAll (ds : Link.Definitions) : List Element → List Element
  | [] => []
  | c :: cs => read ds c :: readAll ds cs

end

/-- The elements of a text. -/
def ofText (t : Text) : Element :=
  let b := blocksOf (normalize t)
  node { type := rootType } (readAll b.definitions b.elements)

end Element
end Markdown
end LiquidMarkdown
