import LiquidMarkdown.Pairing.Roster

/-!
# Pairing of block tags

An opening tag starts a frame and gets a fresh block id.  A closing tag ends the innermost open
frame of its type; a continuation tag joins the innermost open frame of the one type that it may
join.  Whatever cannot be paired has failed.  This file defines:

* `Pairing.Fault` — why a tag is not paired, with its wording;
* `Pairing.IdSource` — the block ids, numbered from one;
* `Pairing.Frame` — a block with the tags that belong to it so far;
* `Pairing.OpenFrames` — the open frames, by type;
* `Pairing.State`, `Pairing.State.step` — the pairing under way, and one tag more;
* `Pairing.associate` — the pairing of a list of tags.
-/

namespace LiquidMarkdown
namespace Pairing

/-! ## Faults -/

/-- Why a tag is not paired. -/
inductive Fault where
  | unclosed (blockType : Text)
  | orphanedEnd (name : Text)
  | orphanedContinuation (name : Text)
  /-- A continuation tag that may join no block type. -/
  | unknownContinuation (name : Text)
  deriving DecidableEq, Repr

/-- The wording of a fault. -/
def Fault.message : Fault → Text
  | unclosed blockType => ("Unclosed block tag '" : Text) ++ blockType ++ "'"
  | orphanedEnd name => ("End tag '" : Text) ++ name ++ "' without a matching start tag"
  | orphanedContinuation name =>
      ("Continuation tag '" : Text) ++ name ++ "' without a matching block start"
  | unknownContinuation name => ("Unknown continuation tag type: '" : Text) ++ name ++ "'"

/-- The tag has failed for a fault. -/
def markFault (f : Fault) (t : Tag) : Tag :=
  t.fail f.message Tag.kindName

/-! ## Block ids -/

/-- A source of block ids, numbered from one. -/
structure IdSource where
  label : Text := []
  used : Nat := 0
  deriving DecidableEq, Repr

namespace IdSource

/-- The id with a given number. -/
def idOf (s : IdSource) (blockType : Text) (number : Nat) : Text :=
  s.label ++ blockType ++ '-' :: Text.ofNat number

/-- The next id for a block of the given type, and the source behind it. -/
def next (s : IdSource) (blockType : Text) : Text × IdSource :=
  (s.idOf blockType (s.used + 1), { s with used := s.used + 1 })

end IdSource

/-! ## Frames -/

/-- A block and the tags that belong to it so far, the opening tag first. -/
structure Frame where
  blockType : Text
  start : TagId
  id : Text
  members : List TagId
  deriving DecidableEq, Repr

namespace Frame

/-- The continuation tags of a frame. -/
def continuations (f : Frame) (r : Roster) : List TagId :=
  f.members.filter fun i => (r.tag i).isContinuation

/-- The closing tag of a frame. -/
def end? (f : Frame) (r : Roster) : Option TagId :=
  f.members.find? fun i => (r.tag i).isEnd

/-- The roster with the tags of a frame related: the opening tag to the others, each of the others
to the opening tag. -/
def relate (f : Frame) (r : Roster) : Roster :=
  let others := f.continuations r ++ (f.end? r).toList
  let r := r.update f.start fun t => { t with related := others }
  r.updateAll others fun t => { t with related := [f.start] }

end Frame

/-- The open frames of each type, the innermost first; types stand in the order in which they were
first opened. -/
abbrev OpenFrames := List (Text × List Frame)

namespace OpenFrames

/-- The open frames of a type, the innermost first. -/
def ofType (o : OpenFrames) (blockType : Text) : List Frame :=
  (List.lookup blockType o).getD []

/-- The frames with those of one type replaced. -/
def set (o : OpenFrames) (blockType : Text) (fs : List Frame) : OpenFrames :=
  if o.any (·.1 = blockType) then o.map fun e => if e.1 = blockType then (blockType, fs) else e
  else o ++ [(blockType, fs)]

/-- All open frames: type by type, the outermost first. -/
def all (o : OpenFrames) : List Frame :=
  o.flatMap fun e => e.2.reverse

end OpenFrames

/-! ## The pairing -/

/-- A pairing under way. -/
structure State where
  roster : Roster
  ids : IdSource
  opened : OpenFrames := []
  closed : List Frame := []
  orphans : List TagId := []

namespace State

/-- The tag could not be paired. -/
def orphan (s : State) (i : TagId) (f : Fault) : State :=
  { s with roster := s.roster.update i (markFault f), orphans := s.orphans ++ [i] }

/-- The tag opens a frame. -/
def openFrame (s : State) (i : TagId) (name : Text) : State :=
  let (id, ids) := s.ids.next name
  let f : Frame := ⟨name, i, id, [i]⟩
  { s with
    roster := s.roster.update i fun t => ({ t with blockId := some id } : Tag).succeed none
    ids := ids
    opened := s.opened.set name (f :: s.opened.ofType name) }

/-- The tag belongs to the frame that was opened before. -/
def joinFrame (r : Roster) (i : TagId) (f : Frame) : Roster :=
  r.update i fun t => ({ t with blockId := some f.id, matchingId := some f.id } : Tag).succeed none

/-- The tag closes the innermost open frame of its type. -/
def closeFrame (s : State) (i : TagId) (name : Text) : State :=
  let blockType := Tag.blockOfEnd name
  match s.opened.ofType blockType with
  | [] => s.orphan i (.orphanedEnd name)
  | f :: fs =>
      let f := { f with members := f.members ++ [i] }
      { s with
        roster := f.relate (joinFrame s.roster i f)
        opened := s.opened.set blockType fs
        closed := s.closed ++ [f] }

/-- The tag continues the innermost open frame of the type that it may join. -/
def continueFrame (T : TagTables) (s : State) (i : TagId) (name : Text) : State :=
  match T.parent? name with
  | none => s.orphan i (.unknownContinuation name)
  | some blockType => match s.opened.ofType blockType with
      | [] => s.orphan i (.orphanedContinuation name)
      | f :: fs =>
          { s with
            roster := joinFrame s.roster i f
            opened := s.opened.set blockType ({ f with members := f.members ++ [i] } :: fs) }

/-- One tag more: opening comes before closing, closing before continuing. -/
def step (T : TagTables) (s : State) (i : TagId) : State :=
  let t := s.roster.tag i
  if t.isStart then s.openFrame i t.name
  else if t.isEnd then s.closeFrame i t.name
  else if t.isContinuation then s.continueFrame T i t.name
  else s

/-- The frame was never closed; its continuations belong to it all the same. -/
def leaveOpen (r : Roster) (f : Frame) : Roster :=
  f.relate (r.update f.start (markFault (.unclosed f.blockType)))

end State

/-- What a pairing comes to. -/
structure Result where
  closed : List Frame
  unclosed : List Frame
  orphans : List TagId
  deriving DecidableEq, Repr

/-- Is everything paired? -/
def Result.ok (r : Result) : Bool :=
  r.unclosed.isEmpty && r.orphans.isEmpty

/-- The tags among the given ones that take part in the pairing, in document order. -/
def participants (r : Roster) (is : List TagId) : List TagId :=
  (r.inDocumentOrder is).filter fun i => (r.tag i).hasBlockRole

/-- Pair the block tags among the given ones; what an earlier pairing left on them is wiped out
first.  The roster behind it, the result, and the ids that are left. -/
def associate (T : TagTables) (ids : IdSource) (r : Roster) (is : List TagId) :
    Roster × Result × IdSource :=
  let parts := participants r is
  let s := parts.foldl (State.step T) { roster := r.updateAll parts Tag.reset, ids := ids }
  let unclosed := s.opened.all
  (unclosed.foldl State.leaveOpen s.roster, ⟨s.closed, unclosed, s.orphans⟩, s.ids)

end Pairing
end LiquidMarkdown
