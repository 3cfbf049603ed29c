import LiquidMarkdown.Markdown.Character

/-!
# HTML in Markdown

Tags, comments and the like are passed on as they are.  This file defines:

* `Html.tag?` — the rest of a text behind the tag with which it begins;
* `Html.inline?` — the length of the tag, comment, instruction, declaration or character data with
  which a text begins;
* `Html.BlockKind` — the ways in which a block of HTML starts and stops.
-/

namespace LiquidMarkdown
namespace Markdown
namespace Html

/-! ## Tags -/

/-- May the character stand in the name of a tag? -/
def isTagChar (c : Char) : Bool :=
  c.isAlphanum || c = '-'

/-- May the character begin the name of an attribute? -/
def isAttributeStart (c : Char) : Bool :=
  c.isAlpha || c = '_' || c = ':'

/-- May the character stand in the name of an attribute? -/
def isAttributeChar (c : Char) : Bool :=
  c.isAlphanum || c = '_' || c = ':' || c = '.' || c = '-'

/-- May the character stand in a value without quotes? -/
def isBareChar (c : Char) : Bool :=
  0x20 < c.toNat && c ≠ '"' && c ≠ '\'' && c ≠ '=' && c ≠ '<' && c ≠ '>' && c ≠ '`'

/-- The text behind the blanks with which it begins. -/
abbrev skipBlanks (t : Text) : Text :=
  Text.trimStart t

/-- The text behind the next quote of a kind. -/
def behindQuote? (quote : Char) (t : Text) : Option Text :=
  (Text.breakOn [quote] t).map (·.2)

/-- The rests behind a value, the one behind the longest value first.  Blanks beyond ASCII may
stand in a value without quotes, or end it. -/
def behindValue (t : Text) : List Text :=
  match t with
  | '"' :: u => (behindQuote? '"' u).toList
  | '\'' :: u => (behindQuote? '\'' u).toList
  | t =>
      let most := (t.takeWhile isBareChar).length
      (List.range most).map fun k => t.drop (most - k)

/-- The rests behind an equals sign and a value; the value begins behind all blanks, or else at
one of them. -/
def behindAssignment (t : Text) : List Text :=
  match skipBlanks t with
  | '=' :: u =>
      let most := (u.takeWhile Text.isBlank).length
      (List.range (most + 1)).flatMap fun k => behindValue (u.drop (most - k))
  | _ => []

/-- The rests behind an attribute and the blanks before it. -/
def behindAttribute (t : Text) : List Text :=
  match t, skipBlanks t with
  | b :: _, c :: u =>
      if Text.isBlank b && isAttributeStart c then
        let u := u.dropWhile isAttributeChar
        behindAssignment u ++ [u]
      else []
  | _, _ => []

/-- The rest behind the end of an opening tag. -/
def behindTagEnd? (t : Text) : Option Text :=
  match skipBlanks t with
  | '/' :: '>' :: u => some u
  | '>' :: u => some u
  | _ => none

/-- The rest behind the attributes and the end of an opening tag, if it is acceptable. -/
def behindAttributes? (accept : Text → Bool) (t : Text) : Option Text :=
  ((behindAttribute t).findSome? fun u =>
    if u.length < t.length then behindAttributes? accept u else none).or
    ((behindTagEnd? t).filter accept)
termination_by t.length

/-- The rest behind an opening tag, if it is acceptable. -/
def openTag? (accept : Text → Bool) : Text → Option Text
  | '<' :: c :: t => if c.isAlpha then behindAttributes? accept (t.dropWhile isTagChar) else none
  | _ => none

/-- The rest behind a closing tag. -/
def closeTag? : Text → Option Text
  | '<' :: '/' :: c :: t =>
      if c.isAlpha then match skipBlanks (t.dropWhile isTagChar) with
        | '>' :: u => some u
        | _ => none
      else none
  | _ => none

/-- The rest behind a tag, if it is acceptable. -/
def tag? (accept : Text → Bool) (t : Text) : Option Text :=
  (openTag? accept t).or ((closeTag? t).filter accept)

/-! ## Inline HTML -/

/-- The rest behind the body of a comment, which ends at two hyphens and an angle bracket where
the hyphens do not belong to what comes before. -/
def behindComment? : Text → Option Text
  | '-' :: '-' :: '>' :: t => some t
  | '-' :: '-' :: _ :: t => behindComment? t
  | '-' :: '-' :: [] => none
  | '-' :: _ :: t => behindComment? t
  | '-' :: [] => none
  | _ :: t => behindComment? t
  | [] => none

/-- The text behind the first occurrence of a text. -/
def behind? (p t : Text) : Option Text :=
  (Text.breakOn p t).map (·.2)

/-- The rest behind a comment. -/
def comment? (t : Text) : Option Text := do
  let u ← Text.dropPrefix? "<!--" t
  match u with
  | '>' :: rest | '-' :: '>' :: rest => return rest
  | _ => behindComment? u

/-- The rest behind a processing instruction. -/
def instruction? (t : Text) : Option Text := do
  behind? "?>" (← Text.dropPrefix? "<?" t)

/-- The rest behind a declaration. -/
def declaration? : Text → Option Text
  | '<' :: '!' :: c :: t => if c.isAlpha then behind? [ '>' ] t else none
  | _ => none

/-- The rest behind character data. -/
def characterData? (t : Text) : Option Text := do
  behind? "]]>" (← Text.dropPrefix? "<![CDATA[" t)

/-- The length of the HTML with which a text begins. -/
def inline? (t : Text) : Option Nat :=
  (([tag? fun _ => true, comment?, instruction?, declaration?, characterData?] :
    List (Text → Option Text)).findSome? (· t)).map fun rest => t.length - rest.length

/-! ## Blocks of HTML -/

/-- The ways in which a block of HTML starts and stops. -/
inductive BlockKind where
  /-- Starts with the tag of an element whose text is raw, and stops with its closing tag. -/
  | raw
  | comment
  | instruction
  | declaration
  | characterData
  /-- Starts with the tag of a block element, and stops at an empty line. -/
  | block
  /-- Starts with a tag alone in its line, and stops at an empty line. -/
  | alone
  deriving DecidableEq, Repr

/-- The elements whose text is raw. -/
def rawNames : List Text :=
  ["script", "pre", "style", "textarea"]

/-- The block elements. -/
def blockNames : List Text :=
  List.map String.toList
    ["address", "article", "aside", "base", "basefont", "blockquote", "body", "caption", "center",
     "col", "colgroup", "dd", "details", "dialog", "dir", "div", "dl", "dt", "fieldset",
     "figcaption", "figure", "footer", "form", "frame", "frameset", "h1", "h2", "h3", "h4", "h5",
     "h6", "head", "header", "hr", "html", "iframe", "legend", "li", "link", "main", "menu",
     "menuitem", "nav", "noframes", "ol", "optgroup", "option", "p", "param", "search", "section",
     "summary", "table", "tbody", "td", "tfoot", "th", "thead", "title", "tr", "track", "ul"]

/-- Does the text begin with one of the names, in ASCII letters of any case, behind which it ends
or goes on as asked? -/
def startsWithName (names : List Text) (goesOn : Text → Bool) (t : Text) : Bool :=
  names.any fun name => match Text.dropPrefix? name (t.map Char.toLower) with
    | some _ => match t.drop name.length with
        | [] => true
        | c :: rest => Text.isBlank c || goesOn (c :: rest)
    | none => false

namespace BlockKind

/-- All kinds; the first that fits is taken. -/
def all : List BlockKind :=
  [raw, comment, instruction, declaration, characterData, block, alone]

/-- Does a line start a block of the kind? -/
def starts (k : BlockKind) (line : Text) : Bool :=
  match k, line with
  | raw, '<' :: t => startsWithName rawNames (Text.startsWith [ '>' ]) t
  | comment, t => Text.startsWith "<!--" t
  | instruction, t => Text.startsWith "<?" t
  | declaration, '<' :: '!' :: c :: _ => c.isAlpha
  | characterData, t => Text.startsWith "<![CDATA[" t
  | block, '<' :: t =>
      let t := match t with
        | '/' :: u => u
        | u => u
      startsWithName blockNames
        (fun u => Text.startsWith [ '>' ] u || Text.startsWith "/>" u) t
  | alone, t => (tag? (·.all Text.isBlank) t).isSome
  | _, _ => false

/-- Does a line stop a block of the kind? -/
def stops (k : BlockKind) (line : Text) : Bool :=
  let holds (p : Text) (t : Text) : Bool := (Text.breakOn p t).isSome
  match k with
  | raw => rawNames.any fun name => holds ("</" ++ name ++ [ '>' ]) (line.map Char.toLower)
  | comment => holds "-->" line
  | instruction => holds "?>" line
  | declaration => holds [ '>' ] line
  | characterData => holds "]]>" line
  | block | alone => line = []

/-- May a block of the kind follow a paragraph without an empty line? -/
def interrupts (k : BlockKind) : Bool :=
  k != alone

/-- The kind of block that a line starts. -/
def ofLine? (line : Text) : Option BlockKind :=
  all.find? (·.starts line)

end BlockKind
end Html
end Markdown
end LiquidMarkdown
