import LiquidMarkdown.Console.CellWidth
import LiquidMarkdown.Text.Lines
import LiquidMarkdown.Text.Blank

/-!
# Wrapping

Text that is too wide for its place is broken between words.  This file defines:

* `words` — the words of a text, with the blanks around them;
* `expandTabs` — a line with its tabs turned into spaces;
* `Overflow` — what happens to a word that is too wide by itself;
* `breaks` — the offsets at which a line is broken;
* `wrap` — the lines of a text in a place of a given width.
-/

namespace LiquidMarkdown
namespace Console

/-! ## Words -/

/-- The first word of a text with the blanks before and behind it, unless it has none. -/
def firstWord (t : Text) : Text :=
  let before := t.takeWhile Text.isBlank
  let word := (t.drop before.length).takeWhile fun c => !Text.isBlank c
  let behind := (t.drop (before.length + word.length)).takeWhile Text.isBlank
  if word = [] then [] else before ++ word ++ behind

/-- The words of a text, each with the blanks around it. -/
def words (t : Text) : List Text :=
  if _h : 0 < (firstWord t).length ∧ 0 < t.length then
    firstWord t :: words (t.drop (firstWord t).length)
  else []
termination_by t.length
decreasing_by simp only [List.length_drop]; omega

/-! ## Tabs -/

/-- The distance between the columns that tabs reach to. -/
def tabSize : Nat := 8

/-- The fields between tabs with spaces in the place of the tabs; `column` cells come before. -/
def joinFields (column : Nat) : List Text → Text
  | [] => []
  | [t] => t
  | t :: ts =>
      let stop := column + cellLength t + 1
      let spaces := (tabSize - stop % tabSize) % tabSize
      t ++ List.replicate (spaces + 1) ' ' ++ joinFields (stop + spaces) ts

/-- A line with its tabs turned into spaces. -/
def expandTabs (t : Text) : Text :=
  joinFields 0 (Text.splitAt '\t' t)

/-! ## Breaking lines -/

/-- What happens to a word that is too wide by itself. -/
inductive Overflow where
  /-- It goes on in the next line. -/
  | fold
  /-- It is cut, and an ellipsis is put at the end. -/
  | ellipsis
  deriving DecidableEq, Repr

/-- The pieces of a word that fit in a width; `piece` is the beginning of the current one, which
takes `cells`. -/
def foldGlyphs (width cells : Nat) (piece : Text) : List Glyph → List Text
  | [] => [piece]
  | g :: gs =>
      if width < cells + g.cells then piece :: foldGlyphs width g.cells g.text gs
      else foldGlyphs width (cells + g.cells) (piece ++ g.text) gs

/-- The offsets of texts that follow each other. -/
def offsetsFrom (start : Nat) : List Text → List Nat
  | [] => []
  | t :: ts => start :: offsetsFrom (start + t.length) ts

/-- The offsets at which a line is broken, from the word at `start` on, where `cells` are taken
already. -/
def breaksFrom (o : Overflow) (width start cells : Nat) : List Text → List Nat
  | [] => []
  | word :: ws =>
      let needed := cellLength (Text.trimEnd word)
      let next := start + word.length
      let all := cellLength word
      let here (cells : Nat) : List Nat :=
        (if start = 0 then [] else [start]) ++ breaksFrom o width next cells ws
      if cells + needed ≤ width then breaksFrom o width next (cells + all) ws
      else if width < needed then
        match o with
        | .fold =>
            let pieces := foldGlyphs width 0 [] (glyphs word)
            (offsetsFrom start pieces).filter (· ≠ 0) ++
              breaksFrom o width next (cellLength (pieces.getLast?.getD [])) ws
        | .ellipsis => here all
      else if cells = 0 || start = 0 then breaksFrom o width next cells ws
      else here all

/-- The offsets at which a line is broken. -/
def breaks (o : Overflow) (width : Nat) (t : Text) : List Nat :=
  breaksFrom o width 0 0 (words t)

/-- The parts of a text between offsets, `start` coming first. -/
def divide (t : Text) (start : Nat) : List Nat → List Text
  | [] => [t.drop start]
  | b :: bs => (t.drop start).take (b - start) :: divide t b bs

/-- A line without the blanks at its end that go beyond a width. -/
def trimBeyond (width : Nat) (t : Text) : Text :=
  let blanks := (Text.takeEnd Text.isBlank t).length
  t.take (t.length - min blanks (t.length - width))

/-- The text of the first glyphs that take a number of cells at the most, filled up with a space
where a wide one would go beyond it. -/
def takeCells (cells : Nat) : List Glyph → Text
  | [] => []
  | g :: gs =>
      if cells = 0 then []
      else if g.cells ≤ cells then g.text ++ takeCells (cells - g.cells) gs
      else [' ']

/-- A line that goes beyond a width cut down to it. -/
def truncate (o : Overflow) (width : Nat) (t : Text) : Text :=
  if cellLength t ≤ width then t
  else match o with
    | .fold => takeCells width (glyphs t)
    | .ellipsis => takeCells (width - 1) (glyphs t) ++ [Char.ofNat 0x2026]

/-- The lines of a text in a place of a given width. -/
def wrap (o : Overflow) (width : Nat) (t : Text) : List Text :=
  (Text.splitAt '\n' t).flatMap fun line =>
    let line := expandTabs line
    (divide line 0 (breaks o width line)).map fun part => truncate o width (trimBeyond width part)

end Console
end LiquidMarkdown
