import LiquidMarkdown.Proofs.Annotation.Totality
import LiquidMarkdown.Proofs.Construct.Leftmost

/-!
# The nodes of a tokenised text

Splitting gives every piece of a text one node, which says what the piece covers and of which
nothing else is known yet.  This file defines:

* `Node.Emitted` — the nodes that a piece may have, wherever it stands in the source;
* `emitted_of_nodes` — splitting gives such nodes, one to a piece;
* `splitText_leftmost` — a text splits into the nodes of its leftmost tokenisation, which is unique.
-/

namespace LiquidMarkdown

/-! ## Nodes of pieces -/

/-- The node is one of those that a piece may have.  They differ by their positions, and a text by
the offset map that it carries; the body of a block is a text, and is marked if it is literal. -/
def Node.Emitted (n : Node) : Piece → Prop
  | .text t => ∃ position data, data.flag Data.verbatimKey = false ∧
      n = .leaf { type := Label.textType, value := some t, position := position, data := data }
  | .expression raw => ∃ position, n = .leaf (.expression raw position)
  | .tag raw => ∃ position, n = .leaf (.tag raw position)
  | .block opening body closing isVerbatim => ∃ position first inner last,
      n = .branch (.block (opening ++ body ++ closing) position)
        (.leaf (.tag opening first) :: (inner ++ [.leaf (.tag closing last)])) ∧
      (body = [] ∧ inner = [] ∨ body ≠ [] ∧ ∃ p data, data.flag Data.verbatimKey = isVerbatim ∧
        inner = [.leaf { type := Label.textType, value := some body, position := p, data := data }])

variable {T : TagTables} {p : Placement} {start : Nat}

/-- What a part of a text carries does not mark it as literal. -/
theorem Placement.flag_of_dataAt {data : Data} (h : p.dataAt start = .ok data) :
    data.flag Data.verbatimKey = false := by
  unfold dataAt at h
  split at h
  · split at h
    · cases h
      rfl
    · split at h
      · cases h
        rfl
      · cases h
  · cases h
    rfl

/-- Data with a mark are marked. -/
theorem Data.flag_put_verbatim (d : Data) :
    (d.put verbatimKey (.bool true)).flag verbatimKey = true := by
  rw [flag, get?_put_self]
  rfl

theorem Node.emitted_of_node {q : Piece} {n : Node} (h : p.node start q = .ok n) : n.Emitted q := by
  cases q with
  | text t =>
      rcases Placement.exists_of_node_text h with ⟨l, hl, rfl⟩
      rcases Placement.exists_of_textLabel hl with ⟨position, data, _, hdata, rfl⟩
      exact ⟨position, data, Placement.flag_of_dataAt hdata, rfl⟩
  | expression raw =>
      rcases Placement.exists_of_node_expression h with ⟨position, _, rfl⟩
      exact ⟨position, rfl⟩
  | tag raw =>
      rcases Placement.exists_of_node_tag h with ⟨position, _, rfl⟩
      exact ⟨position, rfl⟩
  | block opening body closing isVerbatim =>
      rcases Placement.exists_of_node_block h with
        ⟨position, position₁, inner, position₂, _, _, hinner, _, rfl⟩
      refine ⟨position, position₁, inner, position₂, rfl, ?_⟩
      rcases Placement.exists_of_bodyNodes hinner with hempty | ⟨hne, l, hl, rfl⟩
      · exact .inl hempty
      · rcases Placement.exists_of_textLabel hl with ⟨position₃, data, _, hdata, rfl⟩
        cases isVerbatim with
        | true => exact .inr ⟨hne, position₃, _, Data.flag_put_verbatim data, rfl⟩
        | false => exact .inr ⟨hne, position₃, data, Placement.flag_of_dataAt hdata, rfl⟩

/-- Splitting gives every piece a node. -/
theorem emitted_of_nodes {qs : List Piece} {ns : List Node} (h : p.nodes start qs = .ok ns) :
    List.Forall₂ Node.Emitted ns qs := by
  induction qs generalizing start ns with
  | nil =>
      cases h
      exact .nil
  | cons q qs ih =>
      rcases Placement.exists_of_nodes_cons h with ⟨n, rest, hn, hrest, rfl⟩
      exact .cons (Node.emitted_of_node hn) (ih hrest)

/-- The node of a piece says what the piece covers. -/
theorem Node.Emitted.value_eq {n : Node} {q : Piece} (h : n.Emitted q) :
    n.label.value = some q.source := by
  cases q with
  | text t =>
      rcases h with ⟨position, data, _, rfl⟩
      rfl
  | expression raw =>
      rcases h with ⟨position, rfl⟩
      rfl
  | tag raw =>
      rcases h with ⟨position, rfl⟩
      rfl
  | block opening body closing isVerbatim =>
      rcases h with ⟨position, first, inner, last, rfl, _⟩
      rfl

theorem map_value_of_emitted {ns : List Node} {qs : List Piece}
    (h : List.Forall₂ Node.Emitted ns qs) :
    ns.map (·.label.value) = qs.map (some ·.source) := by
  induction h with
  | nil => rfl
  | cons hn _ ih => rw [List.map_cons, List.map_cons, hn.value_eq, ih]

theorem Piece.Filled.source_ne_nil {q : Piece} (h : q.Filled) : q.source ≠ [] := by
  cases q with
  | text t => exact h
  | expression raw => exact h
  | tag raw => exact h
  | block opening body closing isVerbatim =>
      rw [source, List.append_assoc]
      exact List.append_ne_nil_of_left_ne_nil h.1 _

/-! ## The split of a text -/

/-- A text that is not empty splits into nodes, wherever it stands, and these are the nodes of its
one leftmost tokenisation.  Each says the part of the text that it covers, none of the parts is
empty, and a text that opens nothing is one of them alone. -/
theorem splitText_leftmost (T : TagTables) {p : Placement} {t : Text} (hp : p.Placeable)
    (ht : t ≠ []) :
    ∃ ps ns, splitText T p t = .ok ns ∧ (∀ qs, Tokenises T t qs ↔ qs = ps) ∧
      List.Forall₂ Node.Emitted ns ps ∧ ns.map (·.label.value) = ps.map (some ·.source) ∧
      (∀ q ∈ ps, q.source ≠ []) ∧ (t.OpensNothing → ps = [.text t]) := by
  obtain ⟨ns, hns, _⟩ := Node.exists_splitText hp T ht
  have hnodes : p.nodes 0 (pieces T t) = .ok ns := by
    rw [splitText, if_neg ht] at hns
    exact hns
  have hemitted := emitted_of_nodes hnodes
  refine ⟨pieces T t, ns, hns, fun qs => tokenises_iff, hemitted, map_value_of_emitted hemitted,
    fun q hq => (filled_of_mem_pieces hq).source_ne_nil, fun hnothing => ?_⟩
  rw [pieces_of_none (Text.opensNothing_iff.1 hnothing), textPiece_of_ne_nil ht]

/-- A text in which delimiters overlap: an expression that begins with a third brace, a block whose
body is a percent sign and a brace, and a tag that is never closed. -/
def overlappingDelimiters : Text :=
  "a\x7b\x7b\x7b x \x7d\x7d\x7d\x7b% if b %\x7d%\x7d\x7b%endif%\x7d\x7b%\x7d"

theorem splitText_leftmost_overlappingDelimiters :
    (⟨some (.contiguous 3), some (LineIndex.ofText overlappingDelimiters)⟩ : Placement).Placeable ∧
      overlappingDelimiters ≠ [] ∧
      ∃ ns, splitText .standard
          ⟨some (.contiguous 3), some (LineIndex.ofText overlappingDelimiters)⟩
          overlappingDelimiters = .ok ns ∧
        List.Forall₂ Node.Emitted ns
          [.text "a", .expression "\x7b\x7b\x7b x \x7d\x7d", .text "\x7d",
          .block "\x7b% if b %\x7d" "%\x7d" "\x7b%endif%\x7d" false, .text "\x7b%\x7d"] := by
  have hplaceable : (⟨some (.contiguous 3), some (LineIndex.ofText overlappingDelimiters)⟩ :
      Placement).Placeable := by
    intro m hm
    cases hm
    exact List.cons_ne_nil _ _
  have hne : overlappingDelimiters ≠ [] := by decide
  have hpieces : pieces .standard overlappingDelimiters =
      [.text "a", .expression "\x7b\x7b\x7b x \x7d\x7d", .text "\x7d",
        .block "\x7b% if b %\x7d" "%\x7d" "\x7b%endif%\x7d" false, .text "\x7b%\x7d"] := by
    decide +kernel
  obtain ⟨ps, ns, hns, hunique, hemitted, _⟩ :=
    splitText_leftmost TagTables.standard hplaceable hne
  have hps : ps = pieces .standard overlappingDelimiters :=
    tokenises_iff.1 ((hunique ps).2 rfl)
  rw [hps, hpieces] at hemitted
  exact ⟨hplaceable, hne, ns, hns, hemitted⟩

end LiquidMarkdown
