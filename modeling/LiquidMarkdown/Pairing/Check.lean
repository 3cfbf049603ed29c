import LiquidMarkdown.Pairing.Associate

/-!
# Checking a pairing

After a pairing, the opening and the closing tags of each block type are counted.  Where the counts
disagree, the tags of the larger side that have no partner are marked.  This file defines:

* `Pairing.hasEndPartner`, `Pairing.hasStartPartner` — is a tag paired with one of the other side;
* `Pairing.Imbalance` — a block type whose counts disagree;
* `Pairing.check` — the marked roster and the messages that were added.
-/

namespace LiquidMarkdown
namespace Pairing

/-- Is the opening tag related to a closing tag of its block? -/
def hasEndPartner (r : Roster) (i : TagId) : Bool :=
  let t := r.tag i
  t.blockId.isSome && t.related.any fun j => (r.tag j).isEnd && (r.tag j).matchingId = t.blockId

/-- Is the closing tag related to an opening tag of its block? -/
def hasStartPartner (r : Roster) (i : TagId) : Bool :=
  let t := r.tag i
  t.matchingId.isSome && t.related.any fun j =>
    (r.tag j).isStart && (r.tag j).blockId = t.matchingId

/-- A block type with its numbers of opening and closing tags. -/
structure Imbalance where
  blockType : Text
  starts : Nat
  ends : Nat
  deriving DecidableEq, Repr

/-- The types of the opening tags among the given ones. -/
def startTypes (r : Roster) (is : List TagId) : List Text :=
  (is.filter fun i => (r.tag i).isStart).map fun i => (r.tag i).name

/-- The types of the closing tags among the given ones. -/
def endTypes (r : Roster) (is : List TagId) : List Text :=
  (is.filter fun i => (r.tag i).isEnd).map fun i => Tag.blockOfEnd (r.tag i).name

/-- The block types whose counts disagree, in the order of their names. -/
def imbalances (r : Roster) (is : List TagId) : List Imbalance :=
  let starts := startTypes r is
  let ends := endTypes r is
  ((Text.sortedSet (starts ++ ends)).map fun t => ⟨t, starts.count t, ends.count t⟩).filter
    fun b : Imbalance => b.starts ≠ b.ends

/-- What is wrong with a tag of a block type whose counts disagree. -/
def Imbalance.fault? (b : Imbalance) (r : Roster) (i : TagId) : Option Fault :=
  let t := r.tag i
  if b.ends < b.starts then
    if t.isStart && t.name = b.blockType && !hasEndPartner r i then some (.unclosed b.blockType)
    else none
  else
    if t.isEnd && Tag.blockOfEnd t.name = b.blockType && !hasStartPartner r i then
      some (.orphanedEnd t.name)
    else none

/-- Mark a tag of a block type whose counts disagree, unless it carries the message already. -/
def Imbalance.mark (b : Imbalance) (s : Roster × List Text) (i : TagId) : Roster × List Text :=
  match b.fault? s.1 i with
  | none => s
  | some f =>
      if (s.1.tag i).error = some f.message then s
      else (s.1.update i (markFault f), s.2 ++ [f.message])

/-- A tag that was read keeps no error message. -/
def clearError (t : Tag) : Tag :=
  if t.isSuccess && t.error ≠ some [] then { t with error := none } else t

/-- Check the counts over the given tags: the marked roster, and the messages that were added. -/
def check (r : Roster) (is : List TagId) : Roster × List Text :=
  let r := r.updateAll is clearError
  (imbalances r is).foldl (fun s b => is.foldl b.mark s) (r, [])

end Pairing
end LiquidMarkdown
