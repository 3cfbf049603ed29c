import LiquidMarkdown.Text.Blank
import LiquidMarkdown.Unicode.Word

/-!
# Tag names

* `Tag.nameOf?` — the first word of a tag's content, after an optional dash;
* `Tag.nameOf` — the same, with `unknown` for a content without one.
-/

namespace LiquidMarkdown
namespace Tag

/-- The name of a tag that has none. -/
def unknownName : Text := "unknown"

/-- The beginning of the names of closing tags. -/
def endPrefix : Text := "end"

/-- The name of the tag that closes a block. -/
def endOf (name : Text) : Text :=
  endPrefix ++ name

/-- The text without a dash at its start. -/
def dropDash : Text → Text
  | '-' :: t => t
  | t => t

/-- The first word of a tag's content, after blanks and an optional dash. -/
def nameOf? (content : Text) : Option Text :=
  let word := (Text.trimStart (dropDash (Text.trim content))).takeWhile Unicode.isWord
  if word = [] then none else some word

/-- The first word of a tag's content, or `unknown`. -/
def nameOf (content : Text) : Text :=
  (nameOf? content).getD unknownName

/-- The name of the block that a closing tag closes. -/
def blockOfEnd (name : Text) : Text :=
  (Text.dropPrefix? endPrefix name).getD name

end Tag
end LiquidMarkdown
