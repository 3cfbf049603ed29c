import LiquidMarkdown.Proofs.Annotation.Totality
import LiquidMarkdown.Proofs.Source.LineIndex
import LiquidMarkdown.Proofs.Source.Tracing

/-!
# Where constructs stand

A construct on one line of a text that is traced to its source stands where its position says, and
so does every construct that is found in the bodies of blocks.  This file defines:

* `Position.Locates` — a text stands in the source where the position says;
* `Placement.Placed` — what is known of the place of a text that is about to be split;
* `Label.Located` — a text is traced to the source, a construct stands where its position says;
* `Node.located_segmentAll` — splitting texts keeps labels located.
-/

namespace LiquidMarkdown

/-! ## Positions -/

/-- The text stands in the source where the position says: from the offset of its start to the
offset of its stop.  The line of the start counts the line feeds before it, its column the
characters since the last of them, both from one. -/
def Position.Locates (p : Position) (source raw : Text) : Prop :=
  ∃ start stop : Nat, p.start.offset = start ∧ p.stop.offset = stop ∧
    source.slice start stop = raw ∧
    p.start.line = (source.take start).count '\n' + 1 ∧
    p.start.column = (Text.lastLine (source.take start)).length + 1

theorem locates_position {source raw : Text} {first last : Int}
    (h : source.slice ((LineIndex.ofText source).clamp first)
      ((LineIndex.ofText source).clamp last) = raw) :
    ((LineIndex.ofText source).position first last).Locates source raw := by
  refine ⟨_, _, rfl, rfl, h, ?_, ?_⟩
  · rw [LineIndex.position, LineIndex.point_eq]
    rfl
  · rw [LineIndex.position, LineIndex.point_eq]
    rfl

/-- Where a text stands in the source in one piece, its position starts at the offset that its map
begins with. -/
theorem start_offset_position {source u : Text} {o : Nat} (hne : u ≠ [])
    (h : (OffsetMap.contiguous o).Traces source u) (last : Int) :
    ((LineIndex.ofText source).position o last).start.offset = o := by
  have hle : o ≤ (LineIndex.ofText source).size := by
    cases h with
    | lines hm _ _ _ => cases hm
    | piece _ h =>
        have := Text.le_length_of_slice (List.length_pos_iff.2 hne) (by rw [h])
        exact Nat.le_trans (Nat.le_add_right _ _) this
  rw [LineIndex.position, LineIndex.point_eq, LineIndex.clamp_of_le hle]

namespace Placement

variable {p : Placement} {source t u : Text} {start : Nat}

/-- The offset map of a text, if it has one, traces it. -/
def Traces (p : Placement) (source t : Text) : Prop :=
  ∀ m, p.offsets = some m → m.Traces source t

/-- A part of one line of a text that is traced stands where its position says. -/
theorem Traces.locates (h : p.Traces source t) (hindex : p.index = some (.ofText source))
    (hu : u.OccursAt t start) (hline : '\n' ∉ u) {q : Position}
    (hq : p.position start (start + u.length) = .ok (some q)) : q.Locates source u := by
  unfold position at hq
  split at hq
  · next m ix hm hix =>
      cases hix.symm.trans hindex
      split at hq
      · next first last hs =>
          cases hq
          apply locates_position
          by_cases hne : u = []
          · -- A part without characters starts where it stops.
            subst hne
            rw [List.length_nil, Nat.add_zero] at hs
            obtain ⟨_, hfl⟩ : ∃ o, (o, o) = (first, last) := by
              simp only [OffsetMap.span?, Int.le_refl, if_true, Option.bind_eq_bind,
                Option.bind_eq_some_iff, Option.pure_def, Option.some.injEq] at hs
              rcases hs with ⟨o, _, ho⟩
              exact ⟨o, ho⟩
            cases hfl
            rw [Text.slice, List.drop_eq_nil_iff, List.length_take]
            exact Nat.min_le_left _ _
          · rcases (h m hm).span? hu hne hline hs with ⟨a, rfl, rfl, hslice⟩
            have hle : a + u.length ≤ source.length :=
              Text.le_length_of_slice (List.length_pos_iff.2 hne) (by rw [hslice])
            have hstart : a ≤ (LineIndex.ofText source).size :=
              Nat.le_trans (Nat.le_add_right a _) hle
            have hstop : a + u.length ≤ (LineIndex.ofText source).size := hle
            rw [LineIndex.clamp_of_le hstart, LineIndex.clamp_of_le hstop]
            exact hslice
      · cases hq
  · cases hq

/-- A part of a text that is traced is traced from its own place. -/
theorem Traces.textLabel (h : p.Traces source t) (hindex : p.index = some (.ofText source))
    (hu : u.OccursAt t start) (hne : u ≠ []) {l : Label} (hl : p.textLabel start u = .ok l) :
    (l.placement (some (.ofText source))).Traces source u := by
  rcases exists_of_textLabel hl with ⟨position, data, hposition, hdata, rfl⟩
  intro m' hm'
  simp only [Label.placement, ofText, Label.offset] at hm'
  cases hm : p.offsets with
  | none =>
      -- Without a map there is no position, and the part has no map of its own.
      simp only [Placement.position, hm] at hposition
      simp only [dataAt, hm] at hdata
      cases hposition
      cases hdata
      cases hm'
  | some m =>
      have htraces := h m hm
      cases hc : m.isContiguous with
      | false =>
          -- Several segments: the part carries the shifted map.
          simp only [dataAt, hm, hc, Bool.false_eq_true, if_false] at hdata
          split at hdata
          · next rest hs =>
              cases hdata
              cases hm'
              exact htraces.shift? hc hu hne hs
          · cases hdata
      | true =>
          -- One segment: the part starts over at the offset of its own position.
          simp only [dataAt, hm, hc, if_true] at hdata
          cases hdata
          cases htraces with
          | lines hm _ _ _ => cases hm.symm.trans hc
          | piece o hslice =>
              have hpart := (OffsetMap.Traces.piece o hslice).contiguous hu
              simp only [Placement.position, hm, hindex] at hposition
              split at hposition
              · next first last hs =>
                  cases hposition
                  cases hm'
                  have hfirst : first = ((o + start : Nat) : Int) := by
                    simp only [OffsetMap.span?, OffsetMap.resolve?_contiguous,
                      Option.bind_eq_bind, Option.bind_some, Option.pure_def] at hs
                    split at hs <;> cases hs <;> rfl
                  have hoffset := start_offset_position hne hpart last
                  rw [← hfirst] at hoffset
                  change (OffsetMap.contiguous (Position.start _).offset).Traces source u
                  rw [hoffset, hfirst]
                  exact hpart
              · cases hposition

end Placement

/-! ## Labels -/

/-- A text that may hold constructs is traced to the source, and a construct on one line stands
where its position says. -/
structure Label.Located (source : Text) (l : Label) : Prop where
  texts : ∀ t, l.openText? = some t → (l.placement (some (.ofText source))).Traces source t
  constructs : ∀ c p, l.kind.construct? = some c → l.position = some p → '\n' ∉ c.raw →
    p.Locates source c.raw

namespace Label.Located

variable {source : Text}

/-- A label that is neither a text that may hold constructs nor a construct is located. -/
theorem plain {l : Label} (ho : l.openText? = none) (hk : l.kind = .plain) : l.Located source where
  texts t ht := by
    rw [ho] at ht
    cases ht
  constructs c p hc := by
    rw [hk] at hc
    cases hc

/-- What is known about a construct is of no account for where it stands. -/
theorem constructs_of_bare {l l' : Label} (h : l.Located source) (hbare : l'.bare = l.bare)
    {c : Construct} {p : Position} (hc : l'.kind.construct? = some c) (hp : l'.position = some p)
    (hline : '\n' ∉ c.raw) : p.Locates source c.raw := by
  rcases Label.eq_of_bare hbare with ⟨_, _, hposition, _, hkind⟩
  have hraw (k : Kind) : k.bare.construct?.map (·.raw) = k.construct?.map (·.raw) := by
    cases k <;> rfl
  have hc' : l.kind.construct?.map (·.raw) = some c.raw := by
    rw [← hraw, ← hkind, hraw, hc]
    rfl
  rcases Option.map_eq_some_iff.1 hc' with ⟨d, hd, hdraw⟩
  rw [← hdraw] at hline ⊢
  exact h.constructs d p hd (hposition ▸ hp) hline

end Label.Located

/-! ## Splitting -/

namespace Placement

variable {p : Placement} {source t : Text} {start : Nat}

/-- What is known of the place of a text that is about to be split. -/
structure Placed (p : Placement) (source t : Text) : Prop where
  traces : p.Traces source t
  index : p.index = some (.ofText source)

namespace Placed

theorem located_text (h : p.Placed source t) {u : Text} (hu : u.OccursAt t start) (hne : u ≠ [])
    {l : Label} (hl : p.textLabel start u = .ok l) : l.Located source where
  texts v hv := by
    have htraces := h.traces.textLabel h.index hu hne hl
    rcases exists_of_textLabel hl with ⟨position, data, _, _, rfl⟩
    cases (Label.eq_of_openText? hv).2.1
    exact htraces
  constructs c q hc := by
    rcases exists_of_textLabel hl with ⟨position, data, _, _, rfl⟩
    cases hc

/-- A construct that was just found is located. -/
theorem located_construct (h : p.Placed source t) {l : Label} {position : Option Position}
    {raw : Text} (hraw : raw.OccursAt t start)
    (hp : p.position start (start + raw.length) = .ok position)
    (hl : l.openText? = none) (hposition : l.position = position)
    (hc : l.kind.construct?.map (·.raw) = some raw) : l.Located source where
  texts u hu := by
    rw [hl] at hu
    cases hu
  constructs c q hc' hq hline := by
    rw [hc', Option.map_some, Option.some.injEq] at hc
    rw [hc] at hline ⊢
    rw [← hposition, hq] at hp
    exact h.traces.locates h.index hraw hline hp

theorem located_bodyNodes (h : p.Placed source t) {body : Text} (hbody : body.OccursAt t start)
    {isVerbatim : Bool} {ns : List Node} (hns : p.bodyNodes start body isVerbatim = .ok ns) :
    ∀ l ∈ Node.labelsAll ns, l.Located source := by
  rcases exists_of_bodyNodes hns with ⟨_, rfl⟩ | ⟨hne, l, hl, rfl⟩
  · exact fun l hl => absurd hl List.not_mem_nil
  · intro k hk
    rw [List.mem_singleton.1 hk]
    have hlocated := h.located_text hbody hne hl
    cases isVerbatim with
    | false => exact hlocated
    | true =>
        rcases exists_of_textLabel hl with ⟨position, data, _, _, rfl⟩
        exact .plain (Label.openText?_put_verbatim _) rfl

theorem located_node (h : p.Placed source t) {q : Piece} (hq : q.source.OccursAt t start)
    (hne : q ≠ .text []) {n : Node} (hn : p.node start q = .ok n) :
    ∀ l ∈ n.labels, l.Located source := by
  cases q with
  | text u =>
      rcases exists_of_node_text hn with ⟨l, hl, rfl⟩
      intro k hk
      rw [List.mem_singleton.1 hk]
      exact h.located_text hq (fun hu => hne (congrArg Piece.text hu)) hl
  | expression raw =>
      rcases exists_of_node_expression hn with ⟨position, hp, rfl⟩
      intro k hk
      rw [List.mem_singleton.1 hk]
      exact h.located_construct hq hp rfl rfl rfl
  | tag raw =>
      rcases exists_of_node_tag hn with ⟨position, hp, rfl⟩
      intro k hk
      rw [List.mem_singleton.1 hk]
      exact h.located_construct hq hp rfl rfl rfl
  | block opening body closing isVerbatim =>
      rcases exists_of_node_block hn with ⟨position, first, inner, last, hp, hf, hi, hl, rfl⟩
      -- The parts of a block stand in the text one behind another.
      have hopening : opening.OccursAt t start := hq.left.left
      have hbody : body.OccursAt t (start + opening.length) := hq.left.right
      have hclosing : closing.OccursAt t (start + opening.length + body.length) := by
        have := hq.right
        rwa [List.length_append, ← Nat.add_assoc] at this
      intro k hk
      rw [Node.labels, Node.labelsAll, Node.labelsAll_append] at hk
      rcases List.mem_cons.1 hk with rfl | hk
      · exact h.located_construct hq hp rfl rfl rfl
      · rcases List.mem_append.1 hk with hk | hk
        · rw [List.mem_singleton.1 hk]
          exact h.located_construct hopening hf rfl rfl rfl
        · rcases List.mem_append.1 hk with hk | hk
          · exact h.located_bodyNodes hbody hi k hk
          · rw [List.mem_singleton.1 hk]
            exact h.located_construct hclosing hl rfl rfl rfl

theorem located_nodes (h : p.Placed source t) {qs : List Piece} (hne : ∀ q ∈ qs, q ≠ .text [])
    {start : Nat} (hqs : Text.OccursAt (qs.flatMap Piece.source) t start) {ns : List Node}
    (hns : p.nodes start qs = .ok ns) : ∀ l ∈ Node.labelsAll ns, l.Located source := by
  induction qs generalizing start ns with
  | nil =>
      cases hns
      exact fun l hl => absurd hl List.not_mem_nil
  | cons q qs ih =>
      rcases exists_of_nodes_cons hns with ⟨n, rest, hn, hr, rfl⟩
      rw [List.flatMap_cons] at hqs
      intro l hl
      rcases List.mem_append.1 hl with hl | hl
      · exact h.located_node hqs.left (hne q List.mem_cons_self) hn l hl
      · exact ih (fun q hq => hne q (List.mem_cons_of_mem _ hq)) hqs.right hr l hl

end Placed
end Placement

namespace Node

variable {T : TagTables} {source : Text}

theorem located_splitText {p : Placement} {t : Text} (h : p.Placed source t) (ht : t ≠ [])
    {ns : List Node} (hns : splitText T p t = .ok ns) : ∀ l ∈ labelsAll ns, l.Located source := by
  rw [splitText, if_neg ht] at hns
  refine h.located_nodes (fun q hq => ne_text_nil_of_mem_pieces hq) ?_ hns
  rw [joined_pieces]
  exact .refl t

/-- Splitting texts keeps labels located. -/
theorem located_segmentAll {ns ns' : List Node}
    (h : segmentAll T (some (.ofText source)) ns = .ok ns') :
    (∀ l ∈ labelsAll ns, l.Located source) → ∀ l ∈ labelsAll ns', l.Located source := by
  refine segmentAll_labels ?_ h
  intro l t split hl ho hs
  exact located_splitText ⟨hl.texts t ho, rfl⟩ (Label.eq_of_openText? ho).2.2 hs

end Node
end LiquidMarkdown
