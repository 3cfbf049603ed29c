import LiquidMarkdown.Document.Construct
import LiquidMarkdown.Source.Position

/-!
# Rosters

The tags of a document, numbered in document order, with what is known about each.  Pairing reads
and writes them by number.  This file defines:

* `PlacedTag` — a tag and its position;
* `Roster` — the tags by number, `Roster.update`;
* `Roster.inDocumentOrder` — numbers sorted by source offset, where every tag has one.
-/

namespace LiquidMarkdown

/-- A tag and where it stands. -/
structure PlacedTag extends Tag where
  position : Option Position := none

namespace PlacedTag

/-- The offset at which the tag starts. -/
def offset? (t : PlacedTag) : Option Int :=
  t.position.map (·.start.offset)

/-- The line on which the tag starts. -/
def line? (t : PlacedTag) : Option Int :=
  t.position.map (·.start.line)

/-- A tag with something done to it, in its place. -/
def mapTag (f : Tag → Tag) (t : PlacedTag) : PlacedTag :=
  { t with toTag := f t.toTag }

end PlacedTag

/-- Tags by number. -/
abbrev Roster := List PlacedTag

namespace Roster

/-- The tag of a number that the roster does not have. -/
def absent : PlacedTag := { raw := [] }

/-- The tag of a number. -/
def tag (r : Roster) (i : TagId) : PlacedTag :=
  r.getD i absent

/-- The roster with something done to the tag of a number. -/
def update (r : Roster) (i : TagId) (f : Tag → Tag) : Roster :=
  r.modify i (PlacedTag.mapTag f)

/-- The roster with something done to the tags of some numbers, one after another. -/
def updateAll (r : Roster) (is : List TagId) (f : Tag → Tag) : Roster :=
  is.foldl (fun r i => r.update i f) r

theorem length_update (r : Roster) (i : TagId) (f : Tag → Tag) :
    (r.update i f).length = r.length :=
  List.length_modify ..

/-- Does every tag have a position? -/
def allPlaced (r : Roster) (is : List TagId) : Bool :=
  is.all fun i => (r.tag i).offset?.isSome

/-- The numbers sorted by source offset, if every tag has one; else as they are given.  Tags with
the same offset stay in the given order. -/
def inDocumentOrder (r : Roster) (is : List TagId) : List TagId :=
  if r.allPlaced is then
    is.mergeSort fun i j => (r.tag i).offset?.getD 0 ≤ (r.tag j).offset?.getD 0
  else is

end Roster
end LiquidMarkdown
