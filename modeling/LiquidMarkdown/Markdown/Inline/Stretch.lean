import LiquidMarkdown.Markdown.Inline.Delimiter

/-!
# Stretches of running text

Matched delimiters turn the text between them into emphasis, strong emphasis or struck out text.
This file defines:

* `Part` — running text in which delimiters have become openings, closings or text;
* `partsOf` — the parts of a text;
* `Part.nest` — the elements that the parts form;
* `elementsOf` — the elements of a text in pieces.
-/

namespace LiquidMarkdown
namespace Markdown

/-- A part of running text. -/
inductive Part where
  | element (e : Element)
  | text (t : Text)
  | opening (h : Element.Head)
  | closing (strikes : Bool)

/-! ## From delimiters to parts -/

/-- The parts that take the places of delimiters. -/
abbrev Marks := List (Nat × Part)

/-- The parts for the delimiters that strike text out. -/
def strikeMarks (slots : Array Slot) : Marks :=
  slots.toList.flatMap fun s =>
    match s.closer with
    | some j =>
        if s.marker = '~' then
          [(s.place, .opening { type := "s", markup := ['~', '~'] }),
           ((slots.getD j default).place, .closing true)]
        else []
    | none => []

/-- Do the delimiters with number `i` and the one before it, with their closers, stand side by
side? -/
def isStrong (slots : Array Slot) (i closer : Nat) : Bool :=
  let slotAt (k : Nat) : Slot := slots.getD k default
  0 < i && (slotAt (i - 1)).closer == some (closer + 1) &&
    (slotAt (i - 1)).marker == (slotAt i).marker &&
    (slotAt (i - 1)).place + 1 == (slotAt i).place &&
    (slotAt (closer + 1)).place == (slotAt closer).place + 1

/-- The parts for the first `n` delimiters that emphasize, from the last one to the first.  Two
pairs side by side are strong: the inner one stands for both, the outer one leaves empty text. -/
def emphasisMarks (slots : Array Slot) (n : Nat) : Marks :=
  match n with
  | 0 => []
  | i + 1 =>
      let s := slots.getD i default
      match s.closer with
      | none => emphasisMarks slots i
      | some j =>
          let stop := (slots.getD j default).place
          if s.marker = '~' then emphasisMarks slots i
          else if isStrong slots i j then
            (s.place, .opening { type := "strong", markup := [s.marker, s.marker] }) ::
              (stop, .closing false) :: (s.place - 1, .text []) :: (stop + 1, .text []) ::
              emphasisMarks slots (i - 1)
          else
            (s.place, .opening { type := "em", markup := [s.marker] }) ::
              (stop, .closing false) :: emphasisMarks slots i
termination_by n

/-- The parts of a text in pieces: delimiters without a match are text. -/
def partsOf (items : List Item) : List Part :=
  let slots := matchDelimiters items
  let marks := strikeMarks slots ++ emphasisMarks slots slots.size
  items.zipIdx.map fun (item, place) =>
    match item with
    | .element e => .element e
    | .text t => .text t
    | .delimiter d => (marks.lookup place).getD (.text d.text)

/-! ## From parts to elements -/

namespace Part

/-- Does the part close a stretch that is struck out? -/
def strikes : Part → Bool
  | closing true => true
  | _ => false

/-- A single tilde before the end of struck out text is moved behind it. -/
def moveTildes : List Part → List Part
  | [] => []
  | .text t :: ps =>
      let closings := ps.takeWhile strikes
      if t = ['~'] && !closings.isEmpty then
        closings ++ .text t :: moveTildes (ps.drop closings.length)
      else .text t :: moveTildes ps
  | p :: ps => p :: moveTildes ps
termination_by ps => ps.length
decreasing_by all_goals simp only [List.length_cons, List.length_drop]; omega

/-- Neighbouring texts made one. -/
def joinTexts : List Part → List Part
  | [] => []
  | .text t :: ps =>
      match joinTexts ps with
      | .text u :: qs => .text (t ++ u) :: qs
      | qs => .text t :: qs
  | p :: ps => p :: joinTexts ps

/-- The elements that parts form.  `outer` holds the stretches that are open, each with what came
before it, and `done`, in reverse, what came last. -/
def nestFrom (outer : List (Element.Head × List Element)) (done : List Element) :
    List Part → List Element
  | [] => match outer with
      | [] => done.reverse
      | (h, before) :: outer => nestFrom outer (.node h done.reverse :: before) []
  | .element e :: ps => nestFrom outer (e :: done) ps
  | .text t :: ps => nestFrom outer (.text t :: done) ps
  | .opening h :: ps => nestFrom ((h, done) :: outer) [] ps
  | .closing _ :: ps => match outer with
      | [] => nestFrom [] done ps
      | (h, before) :: outer => nestFrom outer (.node h done.reverse :: before) ps
termination_by ps => (ps.length, outer.length)

/-- The elements that parts form. -/
def nest (ps : List Part) : List Element :=
  nestFrom [] [] ps

end Part

/-- The elements of a text in pieces. -/
def elementsOf (items : List Item) : List Element :=
  Part.nest (Part.joinTexts (Part.moveTildes (partsOf items)))

end Markdown
end LiquidMarkdown
