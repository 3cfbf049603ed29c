import LiquidMarkdown.Proofs.Pairing.Association

/-!
# Changes that pairing overlooks

Pairing reads the name and the roles of a tag, and writes what it finds out into the tag.  A change
to tags that touches neither of the two can be made before the pairing or behind it.  This file
defines:

* `Overlooked` — the change leaves what pairing reads, and does not get in the way of what it
  writes;
* `Overlooked.step` — one tag more comes to the same, before the change and behind it;
* `paired`, `associate_eq_paired` — a pairing of tags that were reset already;
* `Overlooked.paired` — the same for a whole pairing;
* `PlacedTag.unplaced`, `Roster.unplaced` — tags without their positions, which pairing overlooks:
  it looks at them for the order of the tags, and for nothing else (`associate_unplaced`).
-/

namespace LiquidMarkdown

namespace Roster

/-- What is done to all tags and what is done to one of them come to the same in either order, if
they do for a single tag. -/
theorem update_map {g : PlacedTag → PlacedTag} {f : Tag → Tag}
    (h : ∀ t, g (t.mapTag f) = (g t).mapTag f) (r : Roster) (i : TagId) :
    update (r.map g) i f = (r.update i f).map g := by
  apply List.ext_getElem?
  intro j
  simp only [update, List.getElem?_modify, List.getElem?_map]
  cases r[j]? with
  | none => rfl
  | some t =>
      by_cases hij : i = j
      · simp [hij, h]
      · simp [hij]

theorem updateAll_map {g : PlacedTag → PlacedTag} {f : Tag → Tag}
    (h : ∀ t, g (t.mapTag f) = (g t).mapTag f) (r : Roster) (is : List TagId) :
    updateAll (r.map g) is f = (r.updateAll is f).map g := by
  induction is generalizing r with
  | nil => rfl
  | cons i is ih =>
      have hfirst := update_map h r i
      simpa only [updateAll, List.foldl_cons, hfirst] using ih (r.update i f)

end Roster

namespace Pairing

theorem Frame.relate_eq (f : Frame) (r : Roster) :
    f.relate r =
      (r.update f.start (Tag.withRelated (f.continuations r ++ (f.end? r).toList))).updateAll
        (f.continuations r ++ (f.end? r).toList) (Tag.withRelated [f.start]) :=
  rfl

/-! ## One tag more -/

/-- The change leaves the name and the roles of a tag, and makes no difference to what pairing
writes into it. -/
structure Overlooked (g : PlacedTag → PlacedTag) : Prop where
  absent : g Roster.absent = Roster.absent
  name : ∀ t, (g t).name = t.name
  isStart : ∀ t, (g t).isStart = t.isStart
  isEnd : ∀ t, (g t).isEnd = t.isEnd
  isContinuation : ∀ t, (g t).isContinuation = t.isContinuation
  reset : ∀ t, g (t.mapTag Tag.reset) = (g t).mapTag Tag.reset
  opening : ∀ id t, g (t.mapTag (Tag.opening id)) = (g t).mapTag (Tag.opening id)
  joining : ∀ id t, g (t.mapTag (Tag.joining id)) = (g t).mapTag (Tag.joining id)
  withRelated : ∀ is t, g (t.mapTag (Tag.withRelated is)) = (g t).mapTag (Tag.withRelated is)
  markFault : ∀ f t, g (t.mapTag (markFault f)) = (g t).mapTag (markFault f)

/-- The pairing with a change to all its tags. -/
def State.map (g : PlacedTag → PlacedTag) (s : State) : State :=
  { s with roster := s.roster.map g }

/-- A pairing of tags of which nothing is known yet but their names and roles. -/
def paired (T : TagTables) (ids : IdSource) (parts : List TagId) (r : Roster) :
    Roster × Result × IdSource :=
  let s := parts.foldl (State.step T) { roster := r, ids := ids }
  (s.opened.all.foldl State.leaveOpen s.roster, ⟨s.closed, s.opened.all, s.orphans⟩, s.ids)

theorem associate_eq_paired (T : TagTables) (ids : IdSource) (r : Roster) (is : List TagId) :
    associate T ids r is = paired T ids (participants r is) (fresh r is) :=
  rfl

namespace Overlooked

variable {g : PlacedTag → PlacedTag} (hg : Overlooked g)
include hg

theorem tag (r : Roster) (i : TagId) : Roster.tag (r.map g) i = g (r.tag i) :=
  Roster.tag_map hg.absent r i

theorem continuations (f : Frame) (r : Roster) :
    f.continuations (r.map g) = f.continuations r := by
  simp only [Frame.continuations, hg.tag, hg.isContinuation]

theorem end? (f : Frame) (r : Roster) : f.end? (r.map g) = f.end? r := by
  simp only [Frame.end?, hg.tag, hg.isEnd]

theorem relate (f : Frame) (r : Roster) : f.relate (r.map g) = (f.relate r).map g := by
  rw [Frame.relate_eq, Frame.relate_eq, hg.continuations, hg.end?,
    Roster.update_map (hg.withRelated _), Roster.updateAll_map (hg.withRelated _)]

theorem joinFrame (r : Roster) (i : TagId) (f : Frame) :
    State.joinFrame (r.map g) i f = (State.joinFrame r i f).map g :=
  Roster.update_map (hg.joining f.id) r i

theorem leaveOpen (r : Roster) (f : Frame) :
    State.leaveOpen (r.map g) f = (State.leaveOpen r f).map g := by
  simp only [State.leaveOpen]
  rw [Roster.update_map (hg.markFault _), hg.relate]

theorem orphan (s : State) (i : TagId) (f : Fault) :
    (s.map g).orphan i f = (s.orphan i f).map g := by
  simp only [State.orphan, State.map]
  rw [Roster.update_map (hg.markFault f)]

theorem openFrame (s : State) (i : TagId) (name : Text) :
    (s.map g).openFrame i name = (s.openFrame i name).map g := by
  have hupdate := Roster.update_map (hg.opening (s.ids.next name).1) s.roster i
  simp only [State.openFrame, State.map]
  congr 1

theorem closeFrame (s : State) (i : TagId) (name : Text) :
    (s.map g).closeFrame i name = (s.closeFrame i name).map g := by
  have hopened : (s.map g).opened = s.opened := rfl
  simp only [State.closeFrame, hopened]
  cases s.opened.ofType (Tag.blockOfEnd name) with
  | nil => exact hg.orphan s i _
  | cons f fs => simp only [State.map, hg.joinFrame, hg.relate]

theorem continueFrame (T : TagTables) (s : State) (i : TagId) (name : Text) :
    (s.map g).continueFrame T i name = (s.continueFrame T i name).map g := by
  have hopened : (s.map g).opened = s.opened := rfl
  unfold State.continueFrame
  cases T.parent? name with
  | none => exact hg.orphan s i _
  | some blockType =>
      simp only [hopened]
      cases s.opened.ofType blockType with
      | nil => exact hg.orphan s i _
      | cons f fs => simp only [State.map, hg.joinFrame]

/-- One tag more comes to the same, before the change and behind it. -/
theorem step (T : TagTables) (s : State) (i : TagId) :
    (s.map g).step T i = (s.step T i).map g := by
  have htag : (s.map g).roster.tag i = g (s.roster.tag i) := hg.tag s.roster i
  simp only [State.step, htag, hg.isStart, hg.isEnd, hg.isContinuation, hg.name]
  split
  · exact hg.openFrame s i _
  · split
    · exact hg.closeFrame s i _
    · split
      · exact hg.continueFrame T s i _
      · rfl

/-! ## Whole pairings -/

theorem foldl_step (T : TagTables) (is : List TagId) (s : State) :
    is.foldl (State.step T) (s.map g) = (is.foldl (State.step T) s).map g := by
  induction is generalizing s with
  | nil => rfl
  | cons i is ih => rw [List.foldl_cons, List.foldl_cons, hg.step, ih]

theorem foldl_leaveOpen (fs : List Frame) (r : Roster) :
    fs.foldl State.leaveOpen (r.map g) = (fs.foldl State.leaveOpen r).map g := by
  induction fs generalizing r with
  | nil => rfl
  | cons f fs ih => rw [List.foldl_cons, List.foldl_cons, hg.leaveOpen, ih]

/-- Tags that were reset are paired in the same way with the change and without it. -/
theorem paired (T : TagTables) (ids : IdSource) (parts : List TagId) (r : Roster) :
    paired T ids parts (r.map g) =
      ((Pairing.paired T ids parts r).1.map g, (Pairing.paired T ids parts r).2) := by
  have hsteps := hg.foldl_step T parts { roster := r, ids := ids }
  have hstart : State.map g { roster := r, ids := ids } = { roster := r.map g, ids := ids } := rfl
  rw [hstart] at hsteps
  simp only [Pairing.paired, hsteps]
  exact Prod.ext (hg.foldl_leaveOpen _ _) rfl

/-- So are tags that still have to be reset, where the change leaves their order. -/
theorem associate (T : TagTables) (ids : IdSource) {r : Roster} {is : List TagId}
    (h : Roster.inDocumentOrder (r.map g) is = r.inDocumentOrder is) :
    associate T ids (r.map g) is =
      ((Pairing.associate T ids r is).1.map g, (Pairing.associate T ids r is).2) := by
  have hparts : participants (r.map g) is = participants r is := by
    simp only [participants, h, hg.tag, Tag.hasBlockRole, hg.isStart, hg.isEnd, hg.isContinuation]
  have hfresh : fresh (r.map g) is = (fresh r is).map g := by
    rw [fresh, hparts, Roster.updateAll_map hg.reset]
    rfl
  rw [associate_eq_paired, hparts, hfresh, hg.paired]
  rfl

end Overlooked
end Pairing

/-! ## Pairing without positions -/

/-- The tag without its position. -/
def PlacedTag.unplaced (t : PlacedTag) : PlacedTag :=
  { t with position := none }

namespace Roster

/-- The tags without their positions. -/
def unplaced (r : Roster) : Roster :=
  r.map PlacedTag.unplaced

end Roster

namespace Pairing

theorem overlooked_unplaced : Overlooked PlacedTag.unplaced where
  absent := rfl
  name _ := rfl
  isStart _ := rfl
  isEnd _ := rfl
  isContinuation _ := rfl
  reset _ := rfl
  opening _ _ := rfl
  joining _ _ := rfl
  withRelated _ _ := rfl
  markFault _ _ := rfl

/-- Without positions, the tags stay in the order in which they are given. -/
theorem inDocumentOrder_unplaced (r : Roster) (is : List TagId) :
    r.unplaced.inDocumentOrder is = is := by
  unfold Roster.inDocumentOrder
  split
  · next hplaced =>
      -- Only where there are no tags do all of them have a position.
      cases is with
      | nil => exact List.mergeSort_nil
      | cons i is =>
          have htag := overlooked_unplaced.tag r i
          rw [← Roster.unplaced] at htag
          simp [Roster.allPlaced, htag, PlacedTag.unplaced, PlacedTag.offset?] at hplaced
  · rfl

/-- Tags in the order of their offsets are paired as they are without any positions. -/
theorem associate_unplaced (T : TagTables) (ids : IdSource) {r : Roster} {is : List TagId}
    (h : r.inDocumentOrder is = is) :
    associate T ids r.unplaced is =
      ((associate T ids r is).1.unplaced, (associate T ids r is).2) :=
  overlooked_unplaced.associate T ids ((inDocumentOrder_unplaced r is).trans h.symm)

end Pairing
end LiquidMarkdown
