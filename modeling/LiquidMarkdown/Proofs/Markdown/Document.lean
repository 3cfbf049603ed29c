import LiquidMarkdown.Markdown.Document
import LiquidMarkdown.Proofs.Annotation.Location
import LiquidMarkdown.Proofs.Markdown.Locate

/-!
# Markdown documents are located

* `Markdown.Walk.located_textNode` — a text of a Markdown document is traced to the source;
* `Markdown.Walk.located_blockNodes` — all labels of a Markdown document are located;
* `annotate_ofElement_locates` — a Markdown document can be annotated, and each of its constructs on
  one line stands where its position says.
-/

namespace LiquidMarkdown

namespace Markdown

/-! ## Texts -/

namespace Walk

variable {source : Text}

/-- A text of a document is traced to the source, where it was found. -/
theorem located_textNode {w : Walk} (hw : w.index = .ofText source) (t : Text) (cursor : Nat) :
    ∀ l ∈ (w.textNode t cursor).1.labels, l.kind = .plain ∧ l.Located source := by
  intro l hl
  unfold textNode at hl
  split at hl
  · rw [List.mem_singleton.1 hl]
    refine ⟨rfl, ?_, fun c p hc => by cases hc⟩
    intro u _ m hm
    cases hm
  · next m place hlocate =>
      rw [List.mem_singleton.1 hl]
      refine ⟨rfl, ?_, fun c p hc => by cases hc⟩
      intro u hu m' hm'
      rcases Label.eq_of_openText? hu with ⟨_, hvalue, hne⟩
      cases hvalue
      -- The map was found in this source.
      have htraces : m.Traces source t := by
        have := traces_of_locate? hlocate
        rwa [hw] at this
      simp only [Label.placement, Placement.ofText, Label.offset] at hm'
      cases hc : m.isContiguous with
      | false =>
          rw [hc] at hm'
          cases hm'
          exact htraces
      | true =>
          rw [hc] at hm'
          cases htraces with
          | lines hm _ _ _ => cases hm.symm.trans hc
          | piece o hslice =>
              have hpiece := OffsetMap.Traces.piece o hslice
              obtain ⟨s, hs⟩ := OffsetMap.exists_span? (m := .contiguous o)
                (List.cons_ne_nil _ _) 0 t.length
              have hfirst : s.1 = o := by
                simp only [OffsetMap.span?, OffsetMap.resolve?_contiguous, Option.bind_eq_bind,
                  Option.bind_some, Option.pure_def, Int.add_zero] at hs
                split at hs <;> cases hs <;> rfl
              rw [hs, hw] at hm'
              cases hm'
              have hoffset := start_offset_position hne hpiece s.2
              rw [← hfirst] at hoffset
              change (OffsetMap.contiguous (Position.start _).offset).Traces source t
              rw [hoffset, hfirst]
              exact hpiece

theorem located_textNodes {w : Walk} (hw : w.index = .ofText source) (t : Option Text)
    (cursor : Nat) :
    ∀ l ∈ Node.labelsAll (w.textNodes t cursor).1, l.kind = .plain ∧ l.Located source := by
  cases t with
  | none => exact fun l hl => absurd hl List.not_mem_nil
  | some t =>
      intro l hl
      rw [textNodes, Node.labelsAll, Node.labelsAll, List.append_nil] at hl
      exact located_textNode hw t cursor l hl

/-! ## Documents -/

theorem index_inside (w : Walk) (position : Option Position) :
    (w.inside position).index = w.index := by
  cases position <;> rfl

theorem located_of_type_ne {l : Label} (h : l.type ≠ Element.textType) (hk : l.kind = .plain) :
    l.kind = .plain ∧ l.Located source :=
  ⟨hk, .plain (Label.openText?_of_type_ne h) hk⟩

theorem literal_ne_text {h : Element.Head} (hl : h.isLiteral = true) :
    h.type ≠ Element.textType := by
  intro ht
  rw [Element.Head.isLiteral, ht] at hl
  exact absurd hl (by decide)

mutual

theorem located_node {w : Walk} (hw : w.index = .ofText source) :
    ∀ (e : Element) (cursor : Nat),
      ∀ l ∈ (w.node cursor e).1.labels, l.kind = .plain ∧ l.Located source
  | .node h cs, cursor, l, hl => by
      rw [node] at hl
      dsimp only at hl
      split at hl
      · next hliteral =>
          rw [List.mem_singleton.1 hl]
          exact located_of_type_ne (literal_ne_text hliteral) rfl
      · split at hl
        · exact located_textNode hw _ _ l hl
        · next htype =>
            split at hl
            · rw [List.mem_singleton.1 hl]
              exact located_of_type_ne htype rfl
            · rcases List.mem_cons.1 hl with rfl | hl
              · exact located_of_type_ne htype rfl
              · exact located_blockNodes ((index_inside w _).trans hw) cs _ l hl

/-- All labels of a document are located. -/
theorem located_blockNodes {w : Walk} (hw : w.index = .ofText source) :
    ∀ (es : List Element) (cursor : Nat),
      ∀ l ∈ Node.labelsAll (w.blockNodes cursor es).1, l.kind = .plain ∧ l.Located source
  | [], cursor, l, hl => absurd hl List.not_mem_nil
  | .node h ks :: cs, cursor, l, hl => by
      rw [blockNodes] at hl
      dsimp only at hl
      rw [Node.labelsAll_append] at hl
      rcases List.mem_append.1 hl with hl | hl
      · split at hl
        · exact located_inlineNodes hw none ks cursor l hl
        · rw [Node.labelsAll, Node.labelsAll, List.append_nil] at hl
          exact located_node hw (.node h ks) cursor l hl
      · exact located_blockNodes hw cs _ l hl

theorem located_inlineNodes {w : Walk} (hw : w.index = .ofText source) (run : Option Text) :
    ∀ (es : List Element) (cursor : Nat),
      ∀ l ∈ Node.labelsAll (w.inlineNodes run cursor es).1, l.kind = .plain ∧ l.Located source
  | [], cursor, l, hl => located_textNodes hw run cursor l (by rwa [inlineNodes] at hl)
  | .node h ks :: cs, cursor, l, hl => by
      rw [inlineNodes] at hl
      split at hl
      · exact located_inlineNodes hw _ cs cursor l hl
      · dsimp only at hl
        rw [Node.labelsAll_append, Node.labelsAll] at hl
        rcases List.mem_append.1 hl with hl | hl
        · exact located_textNodes hw run cursor l hl
        · rcases List.mem_append.1 hl with hl | hl
          · exact located_node hw (.node h ks) _ l hl
          · exact located_inlineNodes hw none cs _ l hl

end

end Walk
end Markdown

/-! ## The whole -/

namespace Node

theorem located_ofElement (source : Text) (e : Markdown.Element) :
    ∀ l ∈ (ofElement source e).labels, l.kind = .plain ∧ l.Located source := by
  intro l hl
  rcases List.mem_cons.1 hl with rfl | hl
  · have htype : Markdown.Element.rootType ≠ Markdown.Element.textType := by decide
    exact Markdown.Walk.located_of_type_ne htype rfl
  · exact Markdown.Walk.located_blockNodes rfl _ _ l hl

/-- A Markdown document has no blocks yet, and its texts are found where their maps say. -/
theorem annotatable_ofElement (source : Text) (e : Markdown.Element) :
    (ofElement source e).Annotatable where
  placeable l hl t m ho hm := by
    have hlocated := (located_ofElement source e l hl).2
    refine (hlocated.texts t ho m ?_).segments_ne_nil (Label.eq_of_openText? ho).2.2
    rw [Label.placement, Placement.ofText, hm, Option.some_or]
  branches l hl name c hk := by
    have hmem : l ∈ (ofElement source e).labels := label_mem_labels hl
    rw [(located_ofElement source e l hmem).1] at hk
    cases hk

end Node

/-- Whatever elements a source is taken for, its document can be annotated, and each construct of
the result that has a position and is written on one line stands in the source exactly there. -/
theorem annotate_ofElement_locates (T : TagTables) (source : Text) (e : Markdown.Element) :
    ∃ m, annotate T (some source) (some (Node.ofElement source e)) = .ok m ∧
      ∀ l ∈ m.labels, ∀ c p, l.kind.construct? = some c → l.position = some p → '\n' ∉ c.raw →
        p.Locates source c.raw := by
  rcases exists_annotate T (some source) (Node.annotatable_ofElement source e) with ⟨m, hm⟩
  refine ⟨m, hm, ?_⟩
  intro l hl c p hc hp hline
  rcases exists_segmentTree_of_annotate hm with ⟨s, hs, hbare, _⟩
  rw [segmentTree, Node.segment_branch] at hs
  rcases exists_ok_of_bind hs with ⟨cs, hcs, hs⟩
  cases hs
  have hlocated := Node.located_segmentAll hcs fun k hk =>
    (Markdown.Walk.located_blockNodes rfl _ _ k hk).2
  -- The label has the place of a label of the split tree.
  have hlabels := congrArg Node.labels hbare
  rw [Node.labels_map, Node.labels_map] at hlabels
  have hmem := List.mem_map_of_mem (f := Label.bare) hl
  rw [hlabels] at hmem
  rcases List.mem_map.1 hmem with ⟨k, hk, hkl⟩
  refine Label.Located.constructs_of_bare ?_ hkl.symm hc hp hline
  rcases List.mem_cons.1 hk with rfl | hk
  · exact (Node.located_ofElement source e _ List.mem_cons_self).2
  · exact hlocated k hk

end LiquidMarkdown
