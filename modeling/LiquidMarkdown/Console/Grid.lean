import LiquidMarkdown.Console.Wrap

/-!
# Grids

A grid shows rows of texts in columns, with lines between them.  This file defines:

* `Grid` — the titles of the columns, and the rows;
* `Grid.widths` — the widths of the columns in a place of a given width;
* `Grid.lines` — the grid as lines of text.

Columns are as wide as their texts, with a blank on each side.  Where they are too wide together,
the widest ones give way first.
-/

namespace LiquidMarkdown
namespace Console

/-- The titles of the columns of a grid, and its rows. -/
structure Grid where
  titles : List Text
  rows : List (List Text)

namespace Grid

/-! ## Widths -/

/-- The greatest of some numbers. -/
def greatest (ns : List Nat) : Nat :=
  ns.foldl max 0

/-- The cells that a text needs in its widest line, with a blank on each side. -/
def needed (t : Text) : Nat :=
  greatest ((Text.lines t).map cellLength) + 2

/-- The column with a number. -/
def column (g : Grid) (i : Nat) : List Text :=
  (g.titles :: g.rows).map fun row => row.getD i []

/-- A quotient rounded to the nearest number, and to an even one if two are near. -/
def roundQuotient (n d : Nat) : Nat :=
  let q := n / d
  if 2 * (n % d) < d then q
  else if d < 2 * (n % d) then q + 1
  else q + q % 2

/-- The widths with those among the widest columns made narrower, by `most` at the most, and by
`excess` in all; `count` of the widest are still to come. -/
def reduceWidest (widest most : Nat) (excess count : Nat) : List Nat → List Nat
  | [] => []
  | w :: ws =>
      if w = widest then
        let part := min most (roundQuotient excess count)
        (w - part) :: reduceWidest widest most (excess - part) (count - 1) ws
      else w :: reduceWidest widest most excess count ws

/-- The widths, made narrower until they fit in a total; each step takes something off. -/
def collapse (total : Nat) (steps : Nat) (ws : List Nat) : List Nat :=
  match steps with
  | 0 => ws
  | steps + 1 =>
      let excess := ws.foldr (· + ·) 0 - total
      if excess = 0 then ws
      else
        let widest := greatest ws
        let second := greatest (ws.filter (· ≠ widest))
        let most := min excess (widest - second)
        collapse total steps (reduceWidest widest most excess (ws.count widest) ws)

/-- The cells that the lines around and between the columns take. -/
def frameWidth (g : Grid) : Nat :=
  g.titles.length + 1

/-- The widths of the columns in a place of a given width. -/
def widths (g : Grid) (width : Nat) : List Nat :=
  let total := width - g.frameWidth
  let ws := (List.range g.titles.length).map fun i =>
    min total (greatest ((g.column i).map needed))
  collapse total (ws.foldr (· + ·) 0) ws

/-! ## Lines -/

/-- A line with a left end, dividers, and a right end. -/
def ruled (left divider right : Char) (parts : List Text) : Text :=
  left :: Text.joinWith [divider] parts ++ [right]

/-- A horizontal line. -/
def horizontal (left line divider right : Char) (ws : List Nat) : Text :=
  ruled left divider right (ws.map fun w => List.replicate w line)

/-- A text filled up with spaces. -/
def padTo (cells : Nat) (t : Text) : Text :=
  t ++ List.replicate (cells - cellLength t) ' '

/-- The lines of a row: as many as the highest of its cells has. -/
def rowLines (line : Char) (ws : List Nat) (row : List Text) : List Text :=
  let cells := (ws.zip row).map fun (w, t) => (w, wrap .ellipsis (w - 2) t)
  let height := greatest (cells.map fun (_, ls) => ls.length)
  (List.range height).map fun k =>
    ruled line line line (cells.map fun (w, ls) =>
      ' ' :: padTo (w - 2) (ls.getD k []) ++ [' '])

/-- The grid as lines of text, with a heavy frame around the titles. -/
def lines (g : Grid) (width : Nat) : List Text :=
  let ws := g.widths width
  horizontal '┏' '━' '┳' '┓' ws :: rowLines '┃' ws g.titles ++
    horizontal '┡' '━' '╇' '┩' ws :: g.rows.flatMap (rowLines '│' ws) ++
    [horizontal '└' '─' '┴' '┘' ws]

end Grid
end Console
end LiquidMarkdown
