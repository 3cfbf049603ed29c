import LiquidMarkdown.Proofs.Document.SourceOrder
import LiquidMarkdown.Proofs.Markdown.Document
import LiquidMarkdown.Proofs.Pairing.Mapping

/-!
# Markdown texts stand in order

The texts of a Markdown document are looked up from left to right, and the cursor never moves back:
not where a text is not found, not over content that is kept as it is, and not into the next block.
This file states:

* `LinesAt.exists_lt` — in a text that is found line by line, each character stands behind the one
  before it;
* `advances_of_locate?` — a text that is located advances through the source from the cursor on;
* `Walk.inOrder_textNode` — a text stands between the cursor before it and the cursor behind it;
* `Walk.inOrder_node`, `Walk.inOrder_blockNodes` — so do all texts of an element;
* `Node.inOrder_ofElement` — all texts of a Markdown document stand in order;
* `annotate_ofElement_inSourceOrder` — so do the tags of an annotated Markdown document, and sorting
  them by their offsets changes nothing.
-/

namespace LiquidMarkdown
namespace Markdown

variable {source t : Text} {lines : List Text} {segments : List (Int × Int)} {m : OffsetMap}
  {limit index cursor place last : Nat}

/-! ## Texts in several lines -/

namespace LinesAt

/-- The characters of a line, and the line feed behind it, stand where its segment leads. -/
theorem resolve?_line (ha : m.Ascending) {pre : List (Int × Int)} {start stop : Nat}
    (hm : m.segments = pre ++ ((index : Int), (start : Int)) :: segments)
    (rest : LinesAt source (stop + 1) place lines segments last) {i : Nat} (hle : index ≤ i)
    (hstop : i ≤ stop) : m.resolve? i = some ((start + (i - index) : Nat) : Int) := by
  have hbehind : ∀ s ∈ segments, (i : Int) < s.1 := by
    intro s hs
    have := rest.le_of_mem s hs
    omega
  rw [OffsetMap.resolve?_of_split ha hm (.inl (Int.ofNat_le.2 hle)) hbehind, Option.some.injEq]
  omega

/-- The character behind another one stands behind it in the source, be it on the same line or on
the next one. -/
theorem exists_lt (h : LinesAt source index place lines segments last) (ha : m.Ascending)
    {pre : List (Int × Int)} (hm : m.segments = pre ++ segments) {i : Nat} (hle : index ≤ i)
    (hlt : i < index + (Text.joinWith ['\n'] lines).length) :
    ∃ o o' : Nat, m.resolve? i = some (o : Int) ∧ m.resolve? (i + 1 : Nat) = some (o' : Int) ∧
      place ≤ o ∧ o < o' ∧ o < source.length := by
  induction h generalizing pre with
  | nil => simp [Text.joinWith] at hlt; omega
  | @cons index place start last line lines segments hstart hstop _ rest ih =>
      by_cases hin : i < index + line.length
      · -- Both characters belong to this line, or the second one is the line feed behind it.
        exact ⟨start + (i - index), start + (i + 1 - index),
          resolve?_line ha hm rest hle (by omega),
          resolve?_line ha hm rest (by omega) hin, by omega, by omega, by omega⟩
      · cases rest with
        | nil =>
            simp only [Text.joinWith, List.intercalate_singleton] at hlt
            omega
        | @cons _ _ start' _ line' lines segments hstart' hstop' h' rest' =>
            rw [Text.joinWith_cons_cons, List.length_append, List.length_cons] at hlt
            have happend : m.segments = (pre ++ [((index : Int), (start : Int))]) ++
                (((index + line.length + 1 : Nat) : Int), (start' : Int)) :: segments := by
              rw [hm, List.append_assoc, List.singleton_append]
            by_cases hbreak : i = index + line.length
            · -- The line feed stands behind this line, and before the text of the next one.
              have hfeed := resolve?_line ha hm (.cons hstart' hstop' h' rest') hle (by omega)
              have hnext := resolve?_line (i := i + 1) ha happend rest' (by omega) (by omega)
              exact ⟨_, _, hfeed, hnext, by omega, by omega, by omega⟩
            · rcases ih happend (by omega) (by omega) with ⟨o, o', ho, ho', hplace, hlto, hsize⟩
              exact ⟨o, o', ho, ho', by omega, hlto, hsize⟩

/-- The place behind the lines is the place that their segments lead to. -/
theorem resolve?_length (h : LinesAt source index place lines segments last) (hne : lines ≠ [])
    (ha : m.Ascending) {pre : List (Int × Int)} (hm : m.segments = pre ++ segments) :
    ∃ o : Nat, m.resolve? (index + (Text.joinWith ['\n'] lines).length : Nat) = some (o : Int) ∧
      last = o + 1 := by
  induction h generalizing pre with
  | nil => exact absurd rfl hne
  | @cons index place start last line lines segments _ _ _ rest ih =>
      cases rest with
      | nil =>
          have hnone : LinesAt source (index + line.length + 1) start [] [] start := .nil
          have hstop :=
            resolve?_line ha hm hnone (Nat.le_add_right index line.length) (Nat.le_refl _)
          refine ⟨start + line.length, ?_, rfl⟩
          rw [Nat.add_sub_cancel_left] at hstop
          simpa only [Text.joinWith, List.intercalate_singleton] using hstop
      | @cons _ _ start' _ line' lines segments _ _ _ _ =>
          have happend : m.segments = (pre ++ [((index : Int), (start : Int))]) ++
              (((index + line.length + 1 : Nat) : Int), (start' : Int)) :: segments := by
            rw [hm, List.append_assoc, List.singleton_append]
          rcases ih (List.cons_ne_nil _ _) happend with ⟨o, ho, hlast⟩
          refine ⟨o, ?_, hlast⟩
          rw [Text.joinWith_cons_cons, List.length_append, List.length_cons, ← ho]
          congr 2
          omega

end LinesAt

/-! ## Located texts -/

/-- A text that is located advances through the source, from the cursor to the place behind it. -/
theorem advances_of_locate? (h : locate? source limit t cursor = some (m, place)) :
    ∃ B : Nat → Nat, cursor ≤ B 0 ∧ B t.length ≤ place ∧
      m.Advances (.ofText source) True B t.length := by
  have hsize : (LineIndex.ofText source).size = source.length := rfl
  rcases cases_of_locate? h with ⟨hne, ⟨start, rfl, rfl, hf⟩ | ⟨_, hlines⟩⟩
  · have hle := le_of_findWithin? hf
    refine ⟨fun i => start + i, hle.1, Nat.le_refl _, List.pairwise_singleton _ _, ?_⟩
    intro i hi
    refine ⟨start + i, OffsetMap.resolve?_contiguous _ _, ?_, ?_, fun _ => by omega⟩
    · rw [LineIndex.clamp_natCast]
      omega
    · rw [LineIndex.clamp_natCast]
      omega
  · have hcover : Text.joinWith ['\n'] (Text.splitAt '\n' t) = t := Text.joinWith_splitAt '\n' t
    have hclimb {i : Nat} (hi : i < t.length) := hlines.exists_lt hlines.ascending
      (List.nil_append _).symm (Nat.zero_le i) (by rwa [hcover, Nat.zero_add])
    -- The places are those that the map itself leads to.
    refine ⟨fun i => ((m.resolve? i).getD 0).toNat, ?_, ?_, hlines.ascending, ?_⟩
    · rcases hclimb (List.length_pos_iff.2 hne) with ⟨o, _, ho, _, hplace, _⟩
      simp only [ho, Option.getD_some]
      omega
    · rcases hlines.resolve?_length (Text.splitAt_ne_nil '\n' t) hlines.ascending
        (List.nil_append _).symm with ⟨o, ho, hlast⟩
      rw [hcover, Nat.zero_add] at ho
      simp only [ho, Option.getD_some]
      omega
    · intro i hi
      rcases hclimb hi with ⟨o, o', ho, ho', _, hlt, hinside⟩
      refine ⟨o, ho, ?_, ?_, fun _ => hinside⟩
      · simp only [ho, Option.getD_some, LineIndex.clamp_natCast]
        omega
      · simp only [ho', Option.getD_some, LineIndex.clamp_natCast]
        omega

theorem le_of_locate? (h : locate? source limit t cursor = some (m, place)) : cursor ≤ place := by
  rcases advances_of_locate? h with ⟨B, hfirst, hlast, hadvances⟩
  have hmono : B 0 ≤ B t.length := hadvances.le (Nat.zero_le _) (Nat.le_refl _)
  omega

/-! ## The walk -/

namespace Walk

variable {w : Walk}

/-- A text stands between the cursor before it and the cursor behind it, if it is found. -/
theorem inOrder_textNode (hw : w.index = .ofText source) (t : Text) (cursor : Nat) :
    InOrder w.index True cursor (w.textNode t cursor).2 (w.textNode t cursor).1.labels := by
  unfold textNode
  split
  · refine .singleton ⟨Nat.le_refl _, ?_, fun u hu => by cases hu⟩
    intro u _
    exact ⟨fun _ => cursor, Nat.le_refl _, Nat.le_refl _,
      Placement.spreads_of_offsets_eq_none rfl rfl cursor⟩
  · next m place hlocate =>
      have hlocate' : Markdown.locate? source w.limit t cursor = some (m, place) := by
        have := hlocate
        rwa [Walk.locate?, hw] at this
      rcases advances_of_locate? hlocate' with ⟨B, hfirst, hlast, hadvances⟩
      rw [← hw] at hadvances
      refine .singleton ⟨le_of_locate? hlocate', ?_, fun u hu => by cases hu⟩
      intro u hu
      rcases Label.eq_of_openText? hu with ⟨_, hvalue, hne⟩
      cases hvalue
      cases hc : m.isContiguous with
      | false =>
          exact ⟨B, hfirst, hlast, Placement.spreads_of_advances rfl rfl hadvances⟩
      | true =>
          -- The text is found again by the position of its node.
          rcases cases_of_locate? hlocate' with ⟨_, ⟨start, rfl, _, _⟩ | ⟨hm, _⟩⟩
          · have hrestart := hadvances.restart hc (Nat.le_of_eq (Nat.zero_add t.length))
              (OffsetMap.resolve?_contiguous start 0)
            simp only [Nat.zero_add] at hrestart
            refine ⟨B, hfirst, hlast, Placement.spreads_of_advances rfl ?_ hrestart⟩
            rcases OffsetMap.exists_span? (m := .contiguous start) (List.cons_ne_nil _ _) 0
              t.length with ⟨p, hp⟩
            have hstart : p.1 = start := by
              simp only [OffsetMap.span?, OffsetMap.resolve?_contiguous, Option.bind_eq_bind,
                Option.bind_some, Option.pure_def, Int.add_zero] at hp
              split at hp <;> cases hp <;> rfl
            rw [hp]
            simp only [Label.placement, Placement.ofText, Label.offset, Option.map_some, hstart]
            rfl
          · rw [hm] at hc
            cases hc

theorem inOrder_textNodes (hw : w.index = .ofText source) (t : Option Text) (cursor : Nat) :
    InOrder w.index True cursor (w.textNodes t cursor).2
      (Node.labelsAll (w.textNodes t cursor).1) := by
  cases t with
  | none => exact Nat.le_refl cursor
  | some t =>
      rw [textNodes, Node.labelsAll, Node.labelsAll, List.append_nil]
      exact inOrder_textNode hw t cursor

theorem le_passOver (hw : w.index = .ofText source) (t : Text) (cursor : Nat) :
    cursor ≤ w.passOver t cursor := by
  unfold passOver
  cases hlocate : w.locate? t cursor with
  | none => exact Nat.le_refl cursor
  | some found =>
      rw [Walk.locate?, hw] at hlocate
      exact le_of_locate? hlocate

theorem le_blockPosition (w : Walk) (h : Element.Head) (cursor : Nat) :
    cursor ≤ (w.blockPosition h cursor).2 := by
  unfold blockPosition
  split
  · exact Nat.le_refl cursor
  · exact Nat.le_max_left _ _

/-- A node that is no text and no construct stands anywhere. -/
theorem within_of_type_ne {l : Label} {ix : LineIndex} {lo hi : Nat} (h : l.type ≠ Element.textType)
    (hk : l.kind = .plain) (hle : lo ≤ hi) : l.Within ix True lo hi := by
  refine Label.within_of_closed hle (Label.openText?_of_type_ne h) ?_
  intro t ht
  rw [hk] at ht
  cases ht

mutual

/-- The texts of an element stand between the cursor before it and the cursor behind it. -/
theorem inOrder_node {w : Walk} (hw : w.index = .ofText source) :
    ∀ (e : Element) (cursor : Nat),
      InOrder w.index True cursor (w.node cursor e).2 (w.node cursor e).1.labels
  | .node h cs, cursor => by
      have hblock := le_blockPosition w h cursor
      rw [node]
      dsimp only
      split
      · next hliteral =>
          refine .singleton (within_of_type_ne (literal_ne_text hliteral) rfl ?_)
          split
          · exact Nat.le_trans hblock (le_passOver hw _ _)
          · exact hblock
      · split
        · have htext := inOrder_textNode hw h.content (w.blockPosition h cursor).2
          exact htext.mono hblock (Nat.le_refl _)
        · next htype =>
            split
            · exact .singleton (within_of_type_ne htype rfl hblock)
            · have hchildren := inOrder_blockNodes
                ((index_inside w (w.blockPosition h cursor).1).trans hw) cs
                (w.blockPosition h cursor).2
              rw [index_inside] at hchildren
              exact ⟨_, within_of_type_ne htype rfl hblock, hchildren⟩

/-- The texts of some blocks stand in order. -/
theorem inOrder_blockNodes {w : Walk} (hw : w.index = .ofText source) :
    ∀ (es : List Element) (cursor : Nat),
      InOrder w.index True cursor (w.blockNodes cursor es).2
        (Node.labelsAll (w.blockNodes cursor es).1)
  | [], cursor => by
      rw [blockNodes]
      exact Nat.le_refl cursor
  | .node h ks :: cs, cursor => by
      rw [blockNodes]
      dsimp only
      rw [Node.labelsAll_append]
      refine InOrder.append ?_ (inOrder_blockNodes hw cs _)
      split
      · exact inOrder_inlineNodes hw none ks cursor
      · rw [Node.labelsAll, Node.labelsAll, List.append_nil]
        exact inOrder_node hw (.node h ks) cursor

/-- The texts of running text stand in order. -/
theorem inOrder_inlineNodes {w : Walk} (hw : w.index = .ofText source) (run : Option Text) :
    ∀ (es : List Element) (cursor : Nat),
      InOrder w.index True cursor (w.inlineNodes run cursor es).2
        (Node.labelsAll (w.inlineNodes run cursor es).1)
  | [], cursor => by
      rw [inlineNodes]
      exact inOrder_textNodes hw run cursor
  | .node h ks :: cs, cursor => by
      rw [inlineNodes]
      split
      · exact inOrder_inlineNodes hw _ cs cursor
      · dsimp only
        rw [Node.labelsAll_append, Node.labelsAll]
        have hbefore := inOrder_textNodes hw run cursor
        have hnode := inOrder_node hw (.node h ks) (w.textNodes run cursor).2
        have hrest := inOrder_inlineNodes hw none cs
          (w.node (w.textNodes run cursor).2 (.node h ks)).2
        exact hbefore.append (hnode.append hrest)

end

end Walk
end Markdown

/-! ## Documents -/

namespace Node

/-- All texts of a Markdown document stand in order. -/
theorem inOrder_ofElement (source : Text) (e : Markdown.Element) :
    ∃ hi, InOrder (.ofText source) True 0 hi (ofElement source e).labels := by
  have hroot : Markdown.Element.rootType ≠ Markdown.Element.textType := by decide
  have hblocks := Markdown.Walk.inOrder_blockNodes (w := .ofText source) rfl e.children 0
  exact ⟨_, _, Markdown.Walk.within_of_type_ne hroot rfl (Nat.le_refl 0), hblocks⟩

/-- The tags that splitting finds in a Markdown document stand apart. -/
theorem apart_of_segmentTree {T : TagTables} {source : Text} {e : Markdown.Element} {s : Node}
    (hs : segmentTree T (some (.ofText source)) (some (ofElement source e)) = .ok s) :
    s.roster.Apart True := by
  rcases inOrder_ofElement source e with ⟨hi, mid, hroot, hblocks⟩
  rw [ofElement] at hs
  rcases exists_of_segmentTree_branch hs with ⟨cs, hcs, rfl⟩
  have hsplit : InOrder (.ofText source) True 0 hi (branch _ cs).labels :=
    ⟨mid, hroot, inOrder_segmentAll hcs mid hi hblocks⟩
  exact apart_of_inOrder hsplit

end Node

/-- Whatever elements a source is taken for, the tags of its document that have a place stand in the
source in the order of the document, and their ranges do not meet.  So sorting tags by their offsets
does not move them, and they are paired as they are without any positions. -/
theorem annotate_ofElement_inSourceOrder (T : TagTables) (source : Text) (e : Markdown.Element) :
    ∃ m, annotate T (some source) (some (Node.ofElement source e)) = .ok m ∧
      (m.roster.Pairwise fun s t => ∀ p q, s.position = some p → t.position = some q →
        p.start.offset < q.start.offset ∧ p.stop.offset ≤ q.start.offset) ∧
      (∀ t ∈ m.roster, ∀ p, t.position = some p → p.start.offset < p.stop.offset) ∧
      ∀ r : Roster, r.map (·.position) = m.roster.map (·.position) →
        ∀ is, is.Sublist (List.range r.length) →
          r.inDocumentOrder is = is ∧ ∀ T' ids, Pairing.associate T' ids r.unplaced is =
            ((Pairing.associate T' ids r is).1.unplaced, (Pairing.associate T' ids r is).2) := by
  rcases exists_annotate T (some source) (Node.annotatable_ofElement source e) with ⟨m, hm⟩
  rcases exists_segmentTree_of_annotate hm with ⟨s, hs, hbare, _⟩
  have hapart : m.roster.Apart True :=
    (Node.apart_of_segmentTree hs).of_positions_eq (Node.positions_roster_of_map_bare hbare)
  refine ⟨m, hm, ?_, ?_, ?_⟩
  · refine hapart.behind.imp_of_mem fun {s t} hs _ hbehind p q hp hq => ?_
    have hrange := (hapart.range s hs p hp).2 trivial
    have hstop := hbehind p q hp hq
    exact ⟨Int.lt_of_lt_of_le hrange hstop, hstop⟩
  · intro t ht p hp
    exact (hapart.range t ht p hp).2 trivial
  · intro r hr is his
    have horder := (hapart.of_positions_eq hr).inDocumentOrder_eq his
    exact ⟨horder, fun T' ids => Pairing.associate_unplaced T' ids horder⟩

end LiquidMarkdown
