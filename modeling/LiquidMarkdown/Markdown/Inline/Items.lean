import LiquidMarkdown.Markdown.Inline.Lexeme
import LiquidMarkdown.Markdown.Inline.Stretch

/-!
# Elements of running text

Running text becomes a list of pieces, link texts first; then delimiters are matched in each list.
This file defines:

* `RunningText.delimiters` — the delimiters that begin at a place;
* `RunningText.itemsFrom` — the pieces of a stretch of text, where the pieces of link texts and the
  elements of picture texts are given;
* `inlineElements` — the elements of a running text;
* `joinSpecials` — elements in which escapes and references have become text.
-/

namespace LiquidMarkdown
namespace Markdown

open Link (Target Definitions)

/-! ## Elements of lexemes -/

namespace Link.Target

/-- The attributes of a link or a picture that leads to a target. -/
def attributes (t : Target) (isImage : Bool) : Data :=
  let address : Data :=
    if isImage then [("src", .text t.address), ("alt", .text [])] else [("href", .text t.address)]
  if t.title = [] then address else address.put "title" (.text t.title)

end Link.Target

namespace RunningText

/-- The pieces for pending text, which is given in reverse. -/
def flush (pending : Text) : List Item :=
  if pending = [] then [] else [.text pending.reverse]

/-- The pieces for a line break behind pending text: two spaces keep it, and all spaces before it
go; a single one goes too. -/
def breakItems (pending : Text) : List Item :=
  let line (t type : Text) : List Item := flush t ++ [.element (.leaf { type := type })]
  match pending with
  | ' ' :: ' ' :: t => line (t.dropWhile (· = ' ')) Element.hardBreakType
  | ' ' :: t => line t Element.softBreakType
  | t => line t Element.softBreakType

/-- The delimiters that begin at a place, as pieces, and their number of characters.  Where text is
struck out, an odd tilde is text. -/
def delimiters (r : RunningText) (place stop : Nat) : Option (List Item × Nat) :=
  match r.between place stop with
  | c :: t =>
      if c = '*' || c = '_' || c = '~' then
        let run := 1 + (t.takeWhile (· = c)).length
        let before := if place = 0 then ' ' else (r.behind (place - 1)).headD ' '
        let after := (r.between (place + run) stop).headD ' '
        let d := Delimiter.ofRun c run before after
        if c ≠ '~' then some (List.replicate run (.delimiter d), run)
        else if run < 2 then none
        else
          let odd : List Item := if run % 2 = 1 then [.text ['~']] else []
          some (odd ++ List.replicate (run / 2) (.delimiter d.striking), run)
      else none
  | [] => none

/-- A reader of the pieces between two places. -/
abbrev ItemReader := (place stop : Nat) → Memory → List Item × Memory

/-- The element of a lexeme, unless it is plain text or a line break. -/
def elementOf? (r : RunningText) (inner : ItemReader) (alt : Text → List Element) (l : Lexeme)
    (m : Memory) : Option Element × Memory :=
  match l with
  | .plain _ | .lineBreak => (none, m)
  | .hardBreak => (some (.leaf { type := Element.hardBreakType }), m)
  | .special characters source kind =>
      (some (.leaf
        { type := Element.specialType, content := characters, markup := source, info := kind }), m)
  | .code marker content =>
      (some (.leaf { type := "code_inline", content := content, markup := marker }), m)
  | .link start stop target =>
      let (items, m) := inner start stop m
      (some (.node { type := "link", attributes := target.attributes false }
        (elementsOf items)), m)
  | .image start stop target =>
      (some (.node { type := Element.imageType, attributes := target.attributes true }
        (alt (r.between start stop))), m)
  | .address address shown =>
      (some (.node
        { type := "link", attributes := (Target.mk address []).attributes false
          markup := "autolink", info := "auto" } [.text shown]), m)
  | .html source => (some (.leaf { type := "html_inline", content := source }), m)

/-- The pieces from a place up to another one, behind pending text, which is given in reverse. -/
def itemsFrom (r : RunningText) (skip : Skip) (inner : ItemReader) (alt : Text → List Element)
    (pending : Text) (place stop : Nat) (m : Memory) : List Item × Memory :=
  if place < stop then
    let goOn (before : List Item) (pending : Text) (next : Nat) (m : Memory) :
        List Item × Memory :=
      let (items, m) := r.itemsFrom skip inner alt pending (max next (place + 1)) stop m
      (before ++ items, m)
    match r.delimiters place stop with
    | some (items, n) => goOn (flush pending ++ items) [] (place + n) m
    | none => match r.lexeme? skip place stop m with
        | (none, m) => goOn [] ((r.behind place).headD ' ' :: pending) (place + 1) m
        | (some (.plain t, next), m) => goOn [] (t.reverse ++ pending) next m
        | (some (.lineBreak, next), m) => goOn (breakItems pending) [] next m
        | (some (l, next), m) =>
            let (e, m) := r.elementOf? inner alt l m
            goOn (flush pending ++ (e.map Item.element).toList) [] next m
  else (flush pending, m)
termination_by stop - place
decreasing_by all_goals omega

/-- How deep brackets may be nested. -/
def nestingLimit : Nat := 20

/-- The pieces between two places, where links may be nested up to a depth; beyond it everything
is text. -/
def items (r : RunningText) (alt : Text → List Element) : (depth : Nat) → ItemReader
  | 0, place, stop, m => (flush (r.between place stop).reverse, m)
  | depth + 1, place, stop, m =>
      r.itemsFrom (r.skip (depth + 1)) (r.items alt depth) alt [] place stop m

end RunningText

/-! ## Whole texts -/

/-- The elements of a running text.  The text of a picture is read by itself. -/
def inlineElements (ds : Definitions) (t : Text) : List Element :=
  let r : RunningText := ⟨t, ds⟩
  let alt (u : Text) : List Element :=
    if u.length < t.length then inlineElements ds u else []
  elementsOf (r.items alt RunningText.nestingLimit 0 t.length []).1
termination_by t.length

/-! ## Escapes and references -/

mutual

/-- The element with the escapes and references in it turned into text.  What a picture says is left
as it is where pictures are not to be entered; inside a picture no other one is. -/
def joinSpecials (enterImages : Bool) : Element → Element
  | .node h cs =>
      if h.type = Element.imageType then
        .node h (if enterImages then joinSpecialsAll false cs else cs)
      else if h.type = Element.specialType then .text h.content
      else .node h (joinSpecialsAll enterImages cs)

/-- The elements with the escapes and references in them turned into text, and neighbouring texts
made one. -/
def joinSpecialsAll (enterImages : Bool) : List Element → List Element
  | [] => []
  | c :: cs =>
      let e := joinSpecials enterImages c
      match e.text?, joinSpecialsAll enterImages cs with
      | some t, d :: ds => match d.text? with
          | some u => .text (t ++ u) :: ds
          | none => e :: d :: ds
      | _, ds => e :: ds

end

end Markdown
end LiquidMarkdown
