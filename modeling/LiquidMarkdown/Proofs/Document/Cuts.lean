import LiquidMarkdown.Proofs.Construct.Cuts
import LiquidMarkdown.Proofs.Document.Emission

/-!
# Splitting a text in two parts

The nodes that a text splits into are those of its two parts, wherever between two nodes it is cut
and wherever the parts stand in the source.  This file defines:

* `Label.unlocated`, `Node.unlocated` — a node without what says where it stands in the source;
* `Placement.nowhere`, `Placement.nodes_nowhere` — such nodes are those of a text that has no place;
* `Node.wording` — the text that some nodes say;
* `splitText_cut` — both sides of a cut split into the nodes that stood there.
-/

namespace LiquidMarkdown

/-! ## Nodes without a place -/

/-- The data without the offset map of the text. -/
def Data.unlocated (d : Data) : Data :=
  d.filter fun f => f.1 ≠ offsetsKey

/-- The label without position and offset map. -/
def Label.unlocated (l : Label) : Label :=
  { l with position := none, data := l.data.unlocated }

/-- The tree without positions and offset maps. -/
def Node.unlocated (n : Node) : Node :=
  n.map Label.unlocated

namespace Placement

variable {p : Placement} {start : Nat}

/-- The place of a text of which nothing is known. -/
def nowhere : Placement :=
  ⟨none, none⟩

theorem placeable_nowhere : nowhere.Placeable := by
  intro m hm
  cases hm

/-- A part of a text carries no more than an offset map. -/
theorem unlocated_of_dataAt {data : Data} (h : p.dataAt start = .ok data) :
    data.unlocated = [] ∧
      (data.put Data.verbatimKey (.bool true)).unlocated = [(Data.verbatimKey, .bool true)] := by
  have hshape : data = [] ∨ ∃ m, data = [(Data.offsetsKey, .offsets m)] := by
    unfold dataAt at h
    split at h
    · split at h
      · cases h
        exact .inl rfl
      · split at h
        · next rest _ =>
            cases h
            exact .inr ⟨rest, rfl⟩
        · cases h
    · cases h
      exact .inl rfl
  rcases hshape with rfl | ⟨m, rfl⟩
  · exact ⟨rfl, rfl⟩
  · exact ⟨rfl, rfl⟩

theorem textLabel_nowhere {t : Text} {l : Label} (h : p.textLabel start t = .ok l) (place : Nat) :
    nowhere.textLabel place t = .ok l.unlocated := by
  rcases exists_of_textLabel h with ⟨position, data, _, hdata, rfl⟩
  have hnone := (unlocated_of_dataAt hdata).1
  rw [Label.unlocated, hnone]
  rfl

theorem bodyNodes_nowhere {body : Text} {isVerbatim : Bool} {ns : List Node}
    (h : p.bodyNodes start body isVerbatim = .ok ns) (place : Nat) :
    nowhere.bodyNodes place body isVerbatim = .ok (ns.map Node.unlocated) := by
  rcases exists_of_bodyNodes h with ⟨rfl, rfl⟩ | ⟨hne, l, hl, rfl⟩
  · rfl
  · have hlabel := textLabel_nowhere hl place
    rcases exists_of_textLabel hl with ⟨position, data, _, hdata, rfl⟩
    rcases unlocated_of_dataAt hdata with ⟨hnone, hmark⟩
    rw [bodyNodes, if_neg hne, hlabel]
    cases isVerbatim with
    | true =>
        simp only [List.map_cons, List.map_nil, Node.unlocated, Node.leaf, Node.map, if_true,
          Label.unlocated, hmark, hnone]
        rfl
    | false => rfl

/-- What the node of a piece says does not depend on where the piece stands. -/
theorem node_nowhere {q : Piece} {n : Node} (h : p.node start q = .ok n) (place : Nat) :
    nowhere.node place q = .ok n.unlocated := by
  cases q with
  | text t =>
      rcases exists_of_node_text h with ⟨l, hl, rfl⟩
      rw [node, textLabel_nowhere hl place]
      rfl
  | expression raw =>
      rcases exists_of_node_expression h with ⟨position, _, rfl⟩
      rfl
  | tag raw =>
      rcases exists_of_node_tag h with ⟨position, _, rfl⟩
      rfl
  | block opening body closing isVerbatim =>
      rcases exists_of_node_block h with
        ⟨position, first, inner, last, _, _, hinner, _, rfl⟩
      have hinner' := bodyNodes_nowhere hinner (place + opening.length)
      -- The tags around the body say no more than what they are written as.
      have hchildren : Node.mapAll Label.unlocated
          (.leaf (.tag opening first) :: (inner ++ [.leaf (.tag closing last)])) =
          .leaf (.tag opening none) ::
            (inner.map Node.unlocated ++ [.leaf (.tag closing none)]) := by
        rw [Node.mapAll_eq_map, List.map_cons, List.map_append]
        rfl
      rw [Node.unlocated, Node.map, hchildren]
      simp only [node, hinner']
      rfl

theorem nodes_nowhere {qs : List Piece} {ns : List Node} (h : p.nodes start qs = .ok ns)
    (place : Nat) : nowhere.nodes place qs = .ok (ns.map Node.unlocated) := by
  induction qs generalizing start ns place with
  | nil =>
      cases h
      rfl
  | cons q qs ih =>
      rcases exists_of_nodes_cons h with ⟨n, rest, hn, hrest, rfl⟩
      rw [nodes, node_nowhere hn place, ih hrest (place + q.source.length)]
      rfl

/-! ## Cutting a row of nodes -/

/-- The nodes before a cut are those of the pieces before it. -/
theorem nodes_take {qs : List Piece} {ns : List Node} (h : p.nodes start qs = .ok ns) (k : Nat) :
    p.nodes start (qs.take k) = .ok (ns.take k) := by
  induction qs generalizing start ns k with
  | nil =>
      cases h
      rw [List.take_nil, List.take_nil]
      rfl
  | cons q qs ih =>
      rcases exists_of_nodes_cons h with ⟨n, rest, hn, hrest, rfl⟩
      cases k with
      | zero => rfl
      | succ k =>
          rw [List.take_succ_cons, List.take_succ_cons, nodes, hn, ih hrest k]
          rfl

/-- The nodes behind a cut are those of the pieces behind it, from the place of the cut. -/
theorem nodes_drop {qs : List Piece} {ns : List Node} (h : p.nodes start qs = .ok ns) (k : Nat) :
    p.nodes (start + ((qs.take k).flatMap Piece.source).length) (qs.drop k) = .ok (ns.drop k) := by
  induction qs generalizing start ns k with
  | nil =>
      cases h
      rw [List.drop_nil, List.drop_nil]
      rfl
  | cons q qs ih =>
      rcases exists_of_nodes_cons h with ⟨n, rest, hn, hrest, rfl⟩
      cases k with
      | zero => exact h
      | succ k =>
          have hplace := ih hrest k
          rwa [Nat.add_assoc, ← List.length_append] at hplace

end Placement

/-! ## Splitting a part -/

/-- The text that nodes say, one after another. -/
def Node.wording (ns : List Node) : Text :=
  ns.flatMap fun n => n.label.value.getD []

theorem Node.wording_of_nodes {p : Placement} {start : Nat} {qs : List Piece} {ns : List Node}
    (h : p.nodes start qs = .ok ns) : Node.wording ns = qs.flatMap Piece.source := by
  have hvalues := map_value_of_emitted (emitted_of_nodes h)
  calc
    Node.wording ns = (ns.map (·.label.value)).flatMap (·.getD []) := by
      rw [List.flatMap_map]
      rfl
    _ = (qs.map (some ·.source)).flatMap (·.getD []) := by rw [hvalues]
    _ = qs.flatMap Piece.source := by
      rw [List.flatMap_map]
      rfl

variable {T : TagTables} {p p' : Placement} {start : Nat} {qs : List Piece} {ns : List Node}

/-- Pieces that are those of the text which they cover are what this text splits into. -/
theorem splitText_wording (hqs : pieces T (qs.flatMap Piece.source) = qs) (hne : qs ≠ [])
    (h : p.nodes start qs = .ok ns) (p' : Placement) :
    Node.wording ns ≠ [] ∧ splitText T p' (Node.wording ns) = p'.nodes 0 qs := by
  have hwording := Node.wording_of_nodes h
  have htext : Node.wording ns ≠ [] := by
    intro hnil
    -- An empty text has no pieces.
    rw [← hwording, hnil, pieces_of_none rfl] at hqs
    exact hne hqs.symm
  refine ⟨htext, ?_⟩
  rw [splitText, if_neg htext, hwording, hqs]

/-- Nodes of such pieces are found anew, up to their places. -/
theorem exists_splitText_wording (hqs : pieces T (qs.flatMap Piece.source) = qs) (hne : qs ≠ [])
    (h : p.nodes start qs = .ok ns) (hp' : p'.Placeable) :
    ∃ ns', splitText T p' (Node.wording ns) = .ok ns' ∧
      ns'.map Node.unlocated = ns.map Node.unlocated := by
  rcases splitText_wording hqs hne h p' with ⟨htext, hsplit⟩
  obtain ⟨ns', hns', _⟩ := Node.exists_splitText hp' T htext
  have hagain := Placement.nodes_nowhere (hsplit.symm.trans hns') 0
  have hbefore := Placement.nodes_nowhere h 0
  exact ⟨ns', hns', Except.ok.inj (hagain.symm.trans hbefore)⟩

/-- A text that is cut between two of its nodes splits, on either side of the cut, into the nodes
that stood there, wherever the sides stand in the source: no node looks at the text behind those
that follow it.  The nodes before the cut keep their places too, if the text does. -/
theorem splitText_cut (T : TagTables) {p p₁ p₂ : Placement} (hp : p.Placeable) (hp₁ : p₁.Placeable)
    (hp₂ : p₂.Placeable) (t : Text) :
    ∃ ns, splitText T p t = .ok ns ∧ ∀ k, 0 < k → k < ns.length →
      Node.wording (ns.take k) ++ Node.wording (ns.drop k) = t ∧
      splitText T p (Node.wording (ns.take k)) = .ok (ns.take k) ∧
      ∃ ns₁ ns₂, splitText T p₁ (Node.wording (ns.take k)) = .ok ns₁ ∧
        splitText T p₂ (Node.wording (ns.drop k)) = .ok ns₂ ∧
        ns₁.map Node.unlocated = (ns.take k).map Node.unlocated ∧
        ns₂.map Node.unlocated = (ns.drop k).map Node.unlocated := by
  by_cases ht : t = []
  · -- An empty text stays one node, which leaves no place for a cut.
    subst ht
    obtain ⟨position, hposition⟩ := Placement.exists_position hp 0 0
    refine ⟨[.leaf { type := Label.textType, value := some [], position := position }], ?_, ?_⟩
    · rw [splitText, if_pos rfl, hposition]
      rfl
    · intro k hpos hlt
      exact absurd (Nat.lt_one_iff.1 hlt) (Nat.ne_of_gt hpos)
  · obtain ⟨ns, hns, _⟩ := Node.exists_splitText hp T ht
    have hnodes : p.nodes 0 (pieces T t) = .ok ns := by
      rw [splitText, if_neg ht] at hns
      exact hns
    have hlength : ns.length = (pieces T t).length := (emitted_of_nodes hnodes).length_eq
    refine ⟨ns, hns, ?_⟩
    intro k hpos hlt
    have hbefore := Placement.nodes_take hnodes k
    have hbehind := Placement.nodes_drop hnodes k
    have hne₁ : (pieces T t).take k ≠ [] := by
      intro hnil
      rcases List.take_eq_nil_iff.1 hnil with hzero | hnone
      · exact Nat.ne_of_gt hpos hzero
      · rw [hlength, hnone] at hlt
        cases hlt
    have hne₂ : (pieces T t).drop k ≠ [] := by
      intro hnil
      exact Nat.not_le_of_lt hlt (hlength ▸ List.drop_eq_nil_iff.1 hnil)
    refine ⟨?_, ?_, ?_⟩
    · rw [Node.wording_of_nodes hbefore, Node.wording_of_nodes hbehind, joined_take_append_drop,
        joined_pieces]
    · exact (splitText_wording (pieces_take T t k) hne₁ hbefore p).2.trans hbefore
    · obtain ⟨ns₁, hns₁, hsame₁⟩ :=
        exists_splitText_wording (pieces_take T t k) hne₁ hbefore hp₁
      obtain ⟨ns₂, hns₂, hsame₂⟩ :=
        exists_splitText_wording (pieces_drop T t k) hne₂ hbehind hp₂
      exact ⟨ns₁, ns₂, hns₁, hns₂, hsame₁, hsame₂⟩

/-- A text with a block, a tag whose end is hidden behind a literal block that is never closed, and
the tags of both. -/
def unclosedLiteral : Text :=
  "\x7b% if a %\x7dx\x7b% endif %\x7d\x7b% if b %\x7dy\x7b% raw %\x7d\x7b% endif %\x7d"

theorem splitText_cut_unclosedLiteral :
    (⟨some (.contiguous 3), some (LineIndex.ofText unclosedLiteral)⟩ : Placement).Placeable ∧
      Placement.nowhere.Placeable ∧
      ∃ ns ns₁ ns₂, splitText .standard
          ⟨some (.contiguous 3), some (LineIndex.ofText unclosedLiteral)⟩ unclosedLiteral = .ok ns ∧
        ns.length = 5 ∧
        splitText .standard .nowhere (Node.wording (ns.take 4)) = .ok ns₁ ∧
        splitText .standard .nowhere (Node.wording (ns.drop 4)) = .ok ns₂ ∧
        ns₁.map Node.unlocated = (ns.take 4).map Node.unlocated ∧
        ns₂.map Node.unlocated = (ns.drop 4).map Node.unlocated := by
  have hplaceable : (⟨some (.contiguous 3), some (LineIndex.ofText unclosedLiteral)⟩ :
      Placement).Placeable := by
    intro m hm
    cases hm
    exact List.cons_ne_nil _ _
  obtain ⟨ns, hns, hcut⟩ := splitText_cut .standard hplaceable Placement.placeable_nowhere
    Placement.placeable_nowhere unclosedLiteral
  have hlength : ns.length = 5 := by
    have hpieces : (pieces .standard unclosedLiteral).length = 5 := by decide +kernel
    rw [splitText, if_neg (by decide)] at hns
    exact (emitted_of_nodes hns).length_eq.trans hpieces
  obtain ⟨_, _, ns₁, ns₂, hns₁, hns₂, hsame₁, hsame₂⟩ := hcut 4 (by decide) (by omega)
  exact ⟨hplaceable, Placement.placeable_nowhere, ns, ns₁, ns₂, hns, hlength, hns₁, hns₂, hsame₁,
    hsame₂⟩

end LiquidMarkdown
