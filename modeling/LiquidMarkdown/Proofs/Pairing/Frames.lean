import LiquidMarkdown.Proofs.Pairing.Roster
import Mathlib.Data.List.Nodup

/-!
# Laws of frames

The open frames are kept by type, and a frame writes to the tags of its members.  This file states:

* `OpenFrames.ofType_set_self`, `OpenFrames.ofType_set_of_ne` — reading what was set;
* `OpenFrames.all_perm` — the open frames are those of one type and the others;
* `Tag.opening`, `Tag.joining`, `Tag.withRelated` — what pairing writes into a tag;
* `Frame.Consists` — the parts of a frame, as the roles of its members tell;
* `Frame.Consists.tag_relate_start`, `Frame.Consists.tag_relate_other`,
  `Frame.Consists.tag_relate_of_notMem` — what relating the tags of a frame writes.
-/

namespace LiquidMarkdown

/-! ## What is written into a tag -/

namespace Tag

/-- The tag opens the block with the given id. -/
def opening (id : Text) (t : Tag) : Tag :=
  ({ t with blockId := some id } : Tag).succeed none

/-- The tag belongs to the block with the given id, which was opened before. -/
def joining (id : Text) (t : Tag) : Tag :=
  ({ t with blockId := some id, matchingId := some id } : Tag).succeed none

/-- The tag is paired with the given tags. -/
def withRelated (is : List TagId) (t : Tag) : Tag :=
  { t with related := is }

end Tag

namespace Pairing

/-! ## Open frames -/

namespace OpenFrames

variable {o : OpenFrames} {X Y : Text}

theorem ofType_cons (e : Text × List Frame) (o : OpenFrames) (X : Text) :
    ofType (e :: o) X = if X = e.1 then e.2 else ofType o X := by
  rcases e with ⟨k, fs⟩
  simp only [ofType, List.lookup_cons]
  by_cases h : X = k
  · simp [h]
  · have hb : (X == k) = false := beq_eq_false_iff_ne.2 h
    simp [h, hb]

theorem ofType_append_of_notMem {o' : OpenFrames} (h : X ∉ o.map (·.1)) :
    ofType (o ++ o') X = ofType o' X := by
  induction o with
  | nil => rfl
  | cons e o ih =>
      rw [List.map_cons, List.mem_cons, not_or] at h
      rw [List.cons_append, ofType_cons, if_neg h.1, ih h.2]

theorem ofType_map_replace_self (fs : List Frame) (h : X ∈ o.map (·.1)) :
    ofType (o.map fun e => if e.1 = X then (X, fs) else e) X = fs := by
  induction o with
  | nil => cases h
  | cons e o ih =>
      rw [List.map_cons, ofType_cons]
      by_cases he : e.1 = X
      · rw [if_pos he, if_pos rfl]
      · rw [if_neg he, if_neg (Ne.symm he)]
        rw [List.map_cons, List.mem_cons] at h
        exact ih (h.resolve_left (Ne.symm he))

theorem ofType_map_replace_of_ne (fs : List Frame) (h : Y ≠ X) :
    ofType (o.map fun e => if e.1 = X then (X, fs) else e) Y = ofType o Y := by
  induction o with
  | nil => rfl
  | cons e o ih =>
      rw [List.map_cons, ofType_cons, ofType_cons, ih]
      by_cases he : e.1 = X
      · rw [if_pos he, if_neg h, if_neg (he ▸ h)]
      · rw [if_neg he]

theorem any_iff_mem : o.any (fun e => decide (e.1 = X)) = true ↔ X ∈ o.map (·.1) := by
  rw [List.any_eq_true, List.mem_map]
  constructor
  · rintro ⟨e, he, hx⟩
    exact ⟨e, he, of_decide_eq_true hx⟩
  · rintro ⟨e, he, hx⟩
    exact ⟨e, he, decide_eq_true hx⟩

theorem ofType_set_self (o : OpenFrames) (X : Text) (fs : List Frame) :
    (o.set X fs).ofType X = fs := by
  unfold set
  split
  · next h => exact ofType_map_replace_self fs (any_iff_mem.1 h)
  · next h =>
      rw [ofType_append_of_notMem fun hm => h (any_iff_mem.2 hm), ofType_cons, if_pos rfl]

theorem ofType_set_of_ne (o : OpenFrames) (fs : List Frame) (h : Y ≠ X) :
    (o.set X fs).ofType Y = o.ofType Y := by
  unfold set
  split
  · exact ofType_map_replace_of_ne fs h
  · induction o with
    | nil => rw [List.nil_append, ofType_cons, if_neg h]
    | cons e o ih =>
        rw [List.cons_append, ofType_cons, ofType_cons, ih]
        intro hany
        next hc => exact hc (by rw [List.any_cons, hany, Bool.or_true])

/-- Every type has one entry at most. -/
def Unique (o : OpenFrames) : Prop :=
  (o.map (·.1)).Nodup

theorem unique_set (h : o.Unique) (X : Text) (fs : List Frame) : (o.set X fs).Unique := by
  unfold Unique set at *
  split
  · have hkeys : (o.map fun e => if e.1 = X then (X, fs) else e).map (·.1) = o.map (·.1) := by
      rw [List.map_map]
      apply List.map_congr_left
      intro e _
      by_cases he : e.1 = X
      · simp [he]
      · simp [he]
    rw [hkeys]
    exact h
  · next hc =>
      rw [List.map_append, List.map_singleton, List.nodup_append]
      refine ⟨h, List.nodup_singleton X, fun a ha c hx hac => hc (any_iff_mem.2 ?_)⟩
      rw [hac, List.mem_singleton.1 hx] at ha
      exact ha

/-- The open frames of all types but one. -/
def others (o : OpenFrames) (X : Text) : List Frame :=
  (o.filter (·.1 ≠ X)).flatMap fun e => e.2.reverse

theorem others_cons (e : Text × List Frame) (o : OpenFrames) (X : Text) :
    others (e :: o) X = if e.1 = X then others o X else e.2.reverse ++ others o X := by
  simp only [others, List.filter_cons]
  by_cases he : e.1 = X
  · simp [he]
  · simp [he]

theorem others_set (o : OpenFrames) (X : Text) (fs : List Frame) :
    (o.set X fs).others X = o.others X := by
  unfold set
  split
  · next h =>
      clear h
      induction o with
      | nil => rfl
      | cons e o ih =>
          rw [List.map_cons, others_cons, others_cons, ih]
          by_cases he : e.1 = X
          · rw [if_pos he, if_pos rfl, if_pos he]
          · rw [if_neg he]
  · simp [others, List.filter_append]

/-- The frames of types that do not occur are none. -/
theorem others_eq_all_of_notMem (h : X ∉ o.map (·.1)) :
    OpenFrames.others o X = OpenFrames.all o := by
  induction o with
  | nil => rfl
  | cons e o ih =>
      rw [List.map_cons, List.mem_cons, not_or] at h
      rw [others_cons, if_neg (Ne.symm h.1), ih h.2]
      rfl

/-- The open frames are those of one type and the others. -/
theorem all_perm (h : o.Unique) (X : Text) : o.all.Perm (o.ofType X ++ o.others X) := by
  induction o with
  | nil => exact .refl _
  | cons e o ih =>
      have hu := List.nodup_cons.1 h
      have hall : OpenFrames.all (e :: o) = e.2.reverse ++ OpenFrames.all o := rfl
      rw [ofType_cons, others_cons, hall]
      by_cases he : e.1 = X
      · -- No other entry is of this type.
        rw [if_pos he.symm, if_pos he, others_eq_all_of_notMem (he ▸ hu.1)]
        exact (List.reverse_perm e.2).append_right _
      · rw [if_neg (Ne.symm he), if_neg he]
        refine ((ih hu.2).append_left _).trans ?_
        rw [← List.append_assoc, ← List.append_assoc]
        exact List.perm_append_comm.append_right _

theorem all_set_perm (h : o.Unique) (X : Text) (fs : List Frame) :
    (o.set X fs).all.Perm (fs ++ o.others X) := by
  -- Setting a type changes the frames of that type only.
  have hp := all_perm (unique_set h X fs) X
  rwa [ofType_set_self, others_set] at hp

end OpenFrames

/-! ## Frames -/

namespace Frame

variable {f : Frame} {r : Roster} {conts : List TagId} {stop : Option TagId}

/-- A frame consists of its opening tag, of continuations and perhaps of a closing tag, as the
roles of the tags tell. -/
structure Consists (f : Frame) (r : Roster) (conts : List TagId) (stop : Option TagId) : Prop where
  members : f.members = f.start :: (conts ++ stop.toList)
  start_isContinuation : (r.tag f.start).isContinuation = false
  start_isEnd : (r.tag f.start).isEnd = false
  conts_isContinuation : ∀ k ∈ conts, (r.tag k).isContinuation = true
  conts_isEnd : ∀ k ∈ conts, (r.tag k).isEnd = false
  stop_isContinuation : ∀ j ∈ stop, (r.tag j).isContinuation = false
  stop_isEnd : ∀ j ∈ stop, (r.tag j).isEnd = true

theorem Consists.of_agree {r' : Roster} (h : f.Consists r conts stop) (ha : r'.Agree r) :
    f.Consists r' conts stop where
  members := h.members
  start_isContinuation := (ha.isContinuation _).trans h.start_isContinuation
  start_isEnd := (ha.isEnd _).trans h.start_isEnd
  conts_isContinuation k hk := (ha.isContinuation k).trans (h.conts_isContinuation k hk)
  conts_isEnd k hk := (ha.isEnd k).trans (h.conts_isEnd k hk)
  stop_isContinuation j hj := (ha.isContinuation j).trans (h.stop_isContinuation j hj)
  stop_isEnd j hj := (ha.isEnd j).trans (h.stop_isEnd j hj)

/-- The tags that are related to the opening tag are all the others. -/
theorem Consists.others_eq (h : f.Consists r conts stop) :
    f.continuations r ++ (f.end? r).toList = conts ++ stop.toList := by
  -- Continuations and closing tag are picked by their roles, which tell the parts apart.
  have hconts : conts.filter (fun i => (r.tag i).isContinuation) = conts :=
    List.filter_eq_self.2 h.conts_isContinuation
  have hnone : conts.find? (fun i => (r.tag i).isEnd) = none :=
    List.find?_eq_none.2 fun k hk => by simp [h.conts_isEnd k hk]
  rw [continuations, end?, h.members, List.filter_cons_of_neg (by simp [h.start_isContinuation]),
    List.find?_cons_of_neg (by simp [h.start_isEnd]), List.filter_append, List.find?_append, hconts,
    hnone, Option.none_or]
  cases stop with
  | none => simp
  | some j => simp [h.stop_isContinuation j rfl, h.stop_isEnd j rfl]

theorem Consists.relate_eq (h : f.Consists r conts stop) :
    f.relate r = (r.update f.start (Tag.withRelated (conts ++ stop.toList))).updateAll
      (conts ++ stop.toList) (Tag.withRelated [f.start]) := by
  rw [relate, h.others_eq]
  rfl

theorem Consists.tag_relate_start (h : f.Consists r conts stop) (hn : f.members.Nodup)
    (hlt : f.start < r.length) :
    (f.relate r).tag f.start = (r.tag f.start).mapTag (Tag.withRelated (conts ++ stop.toList)) := by
  rw [h.members, List.nodup_cons] at hn
  rw [h.relate_eq, Roster.tag_updateAll_of_notMem _ hn.1, Roster.tag_update_self hlt]

theorem Consists.tag_relate_other (h : f.Consists r conts stop) (hn : f.members.Nodup)
    {k : TagId} (hk : k ∈ conts ++ stop.toList) (hlt : k < r.length) :
    (f.relate r).tag k = (r.tag k).mapTag (Tag.withRelated [f.start]) := by
  rw [h.members, List.nodup_cons] at hn
  have hne : f.start ≠ k := fun hc => hn.1 (hc ▸ hk)
  rw [h.relate_eq, Roster.tag_updateAll_of_mem hn.2 hk (by rwa [Roster.length_update]),
    Roster.tag_update_of_ne _ hne]

theorem Consists.tag_relate_of_notMem (h : f.Consists r conts stop) {k : TagId}
    (hk : k ∉ f.members) : (f.relate r).tag k = r.tag k := by
  rw [h.members, List.mem_cons, not_or] at hk
  rw [h.relate_eq, Roster.tag_updateAll_of_notMem _ hk.2,
    Roster.tag_update_of_ne _ (Ne.symm hk.1)]

end Frame
end Pairing
end LiquidMarkdown
