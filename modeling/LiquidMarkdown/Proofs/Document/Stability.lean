import LiquidMarkdown.Proofs.Annotation.Totality
import LiquidMarkdown.Proofs.Construct.Plain

/-!
# Split trees

A tree that was split holds no text that would give way once more: whatever is left of a text is
plain, and the texts that stay do so by being their own only piece.  This file defines:

* `Piece.face`, `Node.face` — what type a node has and what it says, `map_face_of_splitText`;
* `Label.Stays` — the text of a label splits into itself;
* `isUnsplit_iff_pieces` — which is when the text is its own only piece;
* `Node.IsSplit` — no text below the nodes gives way, `isSplitAll_of_segmentAll`;
* `Node.segmentAll_of_isSplitAll` — splitting leaves such a tree as it is;
* `segmentTree_segmentTree` — a tree that was split is left as it is, and none of its texts is
  counted.
-/

namespace LiquidMarkdown

variable {T : TagTables} {index : Option LineIndex}

/-! ## Faces -/

/-- What type the node of a piece has, and what it says. -/
def Piece.face : Piece → Text × Option Text
  | text t => (Label.textType, some t)
  | expression raw => (Label.expressionType, some raw)
  | tag raw => (Label.tagType, some raw)
  | block opening body closing _ => (Label.blockType, some (opening ++ body ++ closing))

/-- What type a node has, and what it says. -/
def Node.face (n : Node) : Text × Option Text :=
  (n.label.type, n.label.value)

theorem Piece.exists_text_of_face {q : Piece} (h : q.face.1 = Label.textType) :
    ∃ u, q = .text u := by
  cases q with
  | text u => exact ⟨u, rfl⟩
  | expression raw => exact absurd h (by decide : Label.expressionType ≠ Label.textType)
  | tag raw => exact absurd h (by decide : Label.tagType ≠ Label.textType)
  | block opening body closing isVerbatim =>
      exact absurd h (by decide : Label.blockType ≠ Label.textType)

theorem Piece.eq_text_of_face {q : Piece} {t : Text} (h : q.face = (Piece.text t).face) :
    q = .text t := by
  rcases exists_text_of_face (congrArg Prod.fst h) with ⟨u, rfl⟩
  cases h
  rfl

theorem Piece.face_block_ne_tag (opening body closing raw : Text) (isVerbatim : Bool) :
    (Piece.block opening body closing isVerbatim).face ≠ (Piece.tag raw).face :=
  fun h => absurd (congrArg Prod.fst h) (by decide : Label.blockType ≠ Label.tagType)

theorem Node.face_of_node {p : Placement} {start : Nat} {q : Piece} {n : Node}
    (h : p.node start q = .ok n) : n.face = q.face := by
  cases q with
  | text t =>
      rcases Placement.exists_of_node_text h with ⟨l, hl, rfl⟩
      rcases Placement.exists_of_textLabel hl with ⟨position, data, _, _, rfl⟩
      rfl
  | expression raw =>
      rcases Placement.exists_of_node_expression h with ⟨position, _, rfl⟩
      rfl
  | tag raw =>
      rcases Placement.exists_of_node_tag h with ⟨position, _, rfl⟩
      rfl
  | block opening body closing isVerbatim =>
      rcases Placement.exists_of_node_block h with ⟨position, first, inner, last, _, _, _, _, rfl⟩
      rfl

theorem Node.map_face_of_nodes {p : Placement} {start : Nat} {qs : List Piece} {ns : List Node}
    (h : p.nodes start qs = .ok ns) : ns.map Node.face = qs.map Piece.face := by
  induction qs generalizing start ns with
  | nil =>
      cases h
      rfl
  | cons q qs ih =>
      rcases Placement.exists_of_nodes_cons h with ⟨n, rest, hn, hr, rfl⟩
      rw [List.map_cons, List.map_cons, Node.face_of_node hn, ih hr]

theorem Node.map_face_of_splitText {p : Placement} {t : Text} {ns : List Node} (ht : t ≠ [])
    (h : splitText T p t = .ok ns) :
    ns.map Node.face = (pieces T t).map Piece.face := by
  rw [splitText, if_neg ht] at h
  exact Node.map_face_of_nodes h

/-! ## Texts -/

/-- Only a text becomes the node of a text, and it says the same. -/
theorem Node.eq_text_of_type {p : Placement} {start : Nat} {q : Piece} {n : Node}
    (h : p.node start q = .ok n) (htype : n.label.type = Label.textType) :
    ∃ u, q = .text u ∧ n.label.value = some u := by
  have hface := Node.face_of_node h
  rcases Piece.exists_text_of_face ((congrArg Prod.fst hface).symm.trans htype) with ⟨u, rfl⟩
  exact ⟨u, rfl, congrArg Prod.snd hface⟩

theorem isUnsplit_iff_face {t : Text} {split : List Node} :
    isUnsplit t split = true ↔ split.map Node.face = [(Piece.text t).face] := by
  unfold isUnsplit
  split
  · simp [Node.face, Piece.face]
  · next hne =>
      refine iff_of_false Bool.false_ne_true fun h => ?_
      rcases List.map_eq_singleton_iff.1 h with ⟨n, hn, _⟩
      exact hne n hn

/-- A text splits into itself where it is its own only piece, and nowhere else. -/
theorem isUnsplit_iff_pieces {p : Placement} {t : Text} {split : List Node} (ht : t ≠ [])
    (h : splitText T p t = .ok split) : isUnsplit t split = true ↔ pieces T t = [.text t] := by
  rw [isUnsplit_iff_face, Node.map_face_of_splitText ht h]
  constructor
  · intro hfaces
    rcases List.map_eq_singleton_iff.1 hfaces with ⟨q, hq, hface⟩
    rw [hq, Piece.eq_text_of_face hface]
  · intro hp
    rw [hp]
    rfl

/-! ## Labels -/

namespace Placement

variable {p : Placement} {start : Nat}

/-- What a part of a text carries has a segment, if it is an offset map. -/
theorem segments_ne_nil_of_dataAt {data : Data} (h : p.dataAt start = .ok data) {m : OffsetMap}
    (hm : data.offsets? = some m) : m.segments ≠ [] := by
  unfold dataAt at h
  split at h
  · split at h
    · cases h
      cases hm
    · split at h
      · next rest hrest =>
          cases h
          simp only [Data.offsets?, Data.get?, List.lookup_cons, beq_self_eq_true] at hm
          cases hm
          rcases OffsetMap.exists_of_shift? hrest with ⟨first, _, rfl⟩
          exact List.cons_ne_nil _ _
      · cases h
  · cases h
    cases hm

theorem placeable_of_textLabel {t : Text} {l : Label} (h : p.textLabel start t = .ok l) :
    l.Placeable := by
  rcases exists_of_textLabel h with ⟨position, data, _, hd, rfl⟩
  exact fun u m _ hm => segments_ne_nil_of_dataAt hd hm

end Placement

namespace Label

/-- The text of the label, if it has one that may hold constructs, splits into itself. -/
def Stays (T : TagTables) (index : Option LineIndex) (l : Label) : Prop :=
  ∀ t, l.openText? = some t → ∃ split, splitText T (l.placement index) t = .ok split ∧
    isUnsplit t split = true

theorem stays_of_closed {l : Label} (h : l.openText? = none) : l.Stays T index := by
  intro t ht
  rw [h] at ht
  cases ht

theorem Stays.pieces_eq {l : Label} (h : l.Stays T index) {t : Text} (ht : l.openText? = some t) :
    pieces T t = [.text t] := by
  rcases h t ht with ⟨split, hs, hu⟩
  exact (isUnsplit_iff_pieces (eq_of_openText? ht).2.2 hs).1 hu

/-- A label whose text is its own only piece stays, if it can be placed. -/
theorem Placeable.stays {l : Label} (hl : l.Placeable)
    (h : ∀ t, l.openText? = some t → pieces T t = [.text t]) : l.Stays T index := by
  intro t ht
  have hne := (eq_of_openText? ht).2.2
  obtain ⟨split, hs, _⟩ :=
    Node.exists_splitText (Placement.placeable_of_label hl ht index) T hne
  exact ⟨split, hs, (isUnsplit_iff_pieces hne hs).2 (h t ht)⟩

end Label

/-- The nodes that a text gives way to do not give way themselves. -/
theorem stays_of_mem_splitText {p : Placement} {t : Text} {split : List Node}
    (h : splitText T p t = .ok split) {n : Node} (hn : n ∈ split) : n.label.Stays T index := by
  simp only [splitText] at h
  split at h
  · rcases exists_ok_of_bind h with ⟨position, _, h⟩
    cases h
    cases List.mem_singleton.1 hn
    exact Label.stays_of_closed rfl
  · rcases Node.exists_mem_of_nodes h hn with ⟨q, hq, place, hqn⟩
    cases ho : n.label.openText? with
    | none => exact Label.stays_of_closed ho
    | some u =>
        rcases Label.eq_of_openText? ho with ⟨htype, hvalue, _⟩
        rcases Node.eq_text_of_type hqn htype with ⟨v, rfl, hv⟩
        rw [hvalue] at hv
        cases hv
        rcases Placement.exists_of_node_text hqn with ⟨l, hl, rfl⟩
        refine (Placement.placeable_of_textLabel hl).stays fun t ht => ?_
        cases ho.symm.trans ht
        exact pieces_of_text_mem hq

/-! ## Trees -/

namespace Node

mutual

/-- The node does not give way, and neither does any below it; what is below a text does not
matter. -/
def IsSplit (T : TagTables) (index : Option LineIndex) : Node → Prop
  | branch l cs => l.Stays T index ∧ (l.openText? = none → IsSplitAll T index cs)
  | stub l => l.Stays T index

def IsSplitAll (T : TagTables) (index : Option LineIndex) : List Node → Prop
  | [] => True
  | c :: cs => IsSplit T index c ∧ IsSplitAll T index cs

end

theorem isSplitAll_append {ns ms : List Node} :
    IsSplitAll T index (ns ++ ms) ↔ IsSplitAll T index ns ∧ IsSplitAll T index ms := by
  induction ns with
  | nil => simp [IsSplitAll]
  | cons n ns ih => simp only [List.cons_append, IsSplitAll, ih, and_assoc]

theorem isSplit_of_open {c : Node} {t : Text} (ho : c.label.openText? = some t)
    (h : c.label.Stays T index) : c.IsSplit T index := by
  cases c with
  | stub l => exact h
  | branch l cs =>
      refine ⟨h, fun hclosed => ?_⟩
      cases ho.symm.trans hclosed

theorem IsSplit.label_stays {c : Node} (h : c.IsSplit T index) : c.label.Stays T index := by
  cases c with
  | branch l cs => exact h.1
  | stub l => exact h

/-- What splitting leaves behind is split. -/
theorem isSplitAll_of_segmentAll {ns ns' : List Node} (h : segmentAll T index ns = .ok ns') :
    IsSplitAll T index ns' := by
  refine segmentAll_induction (P := fun _ ns' => IsSplitAll T index ns')
    ?nil ?branch ?stub ?kept ?replaced h
  case nil =>
    exact trivial
  case branch =>
    intro l cs cs' ns ns' ho ihBelow ihRest
    exact ⟨⟨Label.stays_of_closed ho, fun _ => ihBelow⟩, ihRest⟩
  case stub =>
    intro l ns ns' ho ihRest
    exact ⟨Label.stays_of_closed ho, ihRest⟩
  case kept =>
    intro c t split ns ns' ho hs hu ihRest
    refine ⟨isSplit_of_open ho fun u hu' => ?_, ihRest⟩
    cases ho.symm.trans hu'
    exact ⟨split, hs, hu⟩
  case replaced =>
    intro c t split new ns ns' ho hs hu hnew ihRest
    refine isSplitAll_append.2 ⟨?_, ihRest⟩
    have hstays (n : Node) (hn : n ∈ split) : n.label.Stays T index :=
      stays_of_mem_splitText hs hn
    clear hs ho hu
    induction hnew with
    | nil => exact trivial
    | @cons n n' split new hn _ ih =>
        rcases hn with ⟨l, ds, ds', rfl, rfl, _, hbelow⟩
        refine ⟨⟨hstays _ List.mem_cons_self, fun _ => hbelow⟩, ih fun m hm => ?_⟩
        exact hstays m (List.mem_cons_of_mem _ hm)

mutual

/-- Splitting leaves a split tree as it is. -/
theorem segment_of_isSplit : ∀ c : Node, c.label.openText? = none → c.IsSplit T index →
    segment T index c = .ok c
  | branch l cs, ho, h => by
      rw [segment_branch, segmentAll_of_isSplitAll cs (h.2 ho)]
      rfl
  | stub l, _, _ => segment_stub l

theorem segmentAll_of_isSplitAll : ∀ ns : List Node, IsSplitAll T index ns →
    segmentAll T index ns = .ok ns
  | [], _ => segmentAll_nil
  | c :: cs, h => by
      have hrest := segmentAll_of_isSplitAll cs h.2
      cases ho : c.label.openText? with
      | none =>
          rw [segmentAll_cons_closed ho, segment_of_isSplit c ho h.1, hrest]
          rfl
      | some t =>
          rcases h.1.label_stays t ho with ⟨split, hs, hu⟩
          rw [segmentAll_cons_open ho, hs, hrest]
          simp only [replacement, hu, bind, Except.bind, if_true, pure, Except.pure,
            List.singleton_append]

end

mutual

/-- No text of a split tree is counted. -/
theorem splitCount_of_isSplit : ∀ c : Node, c.label.openText? = none → c.IsSplit T index →
    c.splitCount T = 0
  | branch _ cs, ho, h => splitCountAll_of_isSplitAll cs (h.2 ho)
  | stub _, _, _ => rfl

theorem splitCountAll_of_isSplitAll : ∀ ns : List Node, IsSplitAll T index ns →
    splitCountAll T ns = 0
  | [], _ => rfl
  | c :: cs, h => by
      rw [splitCountAll, splitCountAll_of_isSplitAll cs h.2]
      cases ho : c.label.openText? with
      | none => exact splitCount_of_isSplit c ho h.1
      | some t =>
          have hp := h.1.label_stays.pieces_eq ho
          simp [LiquidMarkdown.splitCount, staysText, hp]

end

mutual

/-- What is split does not depend on how constructs were read and paired. -/
theorem isSplit_map_bare : ∀ c : Node, (c.map Label.bare).IsSplit T index ↔ c.IsSplit T index
  | branch _ cs => and_congr Iff.rfl (imp_congr Iff.rfl (isSplitAll_mapAll_bare cs))
  | stub _ => Iff.rfl

theorem isSplitAll_mapAll_bare : ∀ ns : List Node,
    IsSplitAll T index (mapAll Label.bare ns) ↔ IsSplitAll T index ns
  | [] => Iff.rfl
  | c :: cs => and_congr (isSplit_map_bare c) (isSplitAll_mapAll_bare cs)

end
end Node

/-! ## The whole -/

/-- A tree that is written like one that was split is left as it is, and none of its texts is
counted. -/
theorem segmentTree_segmentTree {n s m : Node} (h : segmentTree T index (some n) = .ok s)
    (hm : m.map Label.bare = s.map Label.bare) :
    segmentTree T index (some m) = .ok m ∧ m.splitCount T = 0 := by
  rcases Node.exists_segmentAll_of_segmentTree h with ⟨l, cs, cs', rfl, rfl, hcs⟩
  cases m with
  | stub k => cases hm
  | branch k ds =>
      simp only [Node.map, Node.branch.injEq] at hm
      have hsplit : Node.IsSplitAll T index ds := by
        rw [← Node.isSplitAll_mapAll_bare, hm.2, Node.isSplitAll_mapAll_bare]
        exact Node.isSplitAll_of_segmentAll hcs
      refine ⟨?_, Node.splitCountAll_of_isSplitAll ds hsplit⟩
      rw [segmentTree, Node.segment_branch, Node.segmentAll_of_isSplitAll ds hsplit]
      rfl

end LiquidMarkdown
