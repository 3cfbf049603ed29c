import LiquidMarkdown.Proofs.Markdown.Bounds

/-!
# Texts inside their blocks

A block hands its end down to the texts in it, and takes the end of the block around it up again
behind them; the cursor goes on through all of them.  So a text stands in the innermost block around
it, and behind the texts before it, however the ranges of the blocks go into each other.  This file
defines:

* `Node.lineage` — the labels of a tree, each with the labels above it;
* `Label.textPosition?` — the range of a text that has one;
* `Laid` — texts one behind another between two places, each inside what is above it;
* `Walk.Surrounded` — the innermost block around a walk has begun, and does not end before its
  limit;
* `Walk.laid_textNode`, `Walk.laid_blockNodes` — a walk lays the texts from its cursor on.

The main result is `Node.texts_enclosed_ofElement`.
-/

namespace LiquidMarkdown

/-! ## Labels and what is above them -/

namespace Node

mutual

/-- The labels of a tree in document order, each with the labels above it, the nearest first. -/
def lineage (above : List Label) : Node → List (Label × List Label)
  | branch l cs => (l, above) :: lineageAll (l :: above) cs
  | stub l => [(l, above)]

def lineageAll (above : List Label) : List Node → List (Label × List Label)
  | [] => []
  | c :: cs => lineage above c ++ lineageAll above cs

end

theorem lineageAll_append (above : List Label) (as bs : List Node) :
    lineageAll above (as ++ bs) = lineageAll above as ++ lineageAll above bs := by
  induction as with
  | nil => rfl
  | cons a as ih => rw [List.cons_append, lineageAll, lineageAll, ih, List.append_assoc]

mutual

theorem map_fst_lineage (above : List Label) : ∀ n : Node, (n.lineage above).map (·.1) = n.labels
  | branch l cs => by rw [lineage, labels, List.map_cons, map_fst_lineageAll (l :: above) cs]
  | stub l => rfl

theorem map_fst_lineageAll (above : List Label) :
    ∀ ns : List Node, (lineageAll above ns).map (·.1) = labelsAll ns
  | [] => rfl
  | c :: cs => by
      rw [lineageAll, labelsAll, List.map_append, map_fst_lineage above c,
        map_fst_lineageAll above cs]

end

end Node

/-- The range of a text, if its place is known. -/
def Label.textPosition? (l : Label) : Option Position :=
  if l.type = Label.textType then l.position else none

theorem Label.textPosition?_of_type_ne {l : Label} (h : l.type ≠ Label.textType) :
    l.textPosition? = none :=
  if_neg h

/-! ## Texts in order -/

/-- The texts among the labels stand one behind another between two places, and each of them in the
innermost range above it. -/
structure Laid (lo hi : Nat) (ls : List (Label × List Label)) : Prop where
  le : lo ≤ hi
  within : ∀ s ∈ ls, ∀ p, s.1.textPosition? = some p → p.Within True lo hi
  apart : ls.Pairwise fun s t => ∀ p q, s.1.textPosition? = some p → t.1.textPosition? = some q →
    p.stop.offset ≤ q.start.offset
  enclosed : ∀ s ∈ ls, ∀ p q, s.1.textPosition? = some p → s.2.findSome? (·.position) = some q →
    q.start.offset ≤ p.start.offset ∧ p.stop.offset ≤ q.stop.offset

namespace Laid

variable {lo lo' mid hi : Nat} {l : Label} {above : List Label} {as bs : List (Label × List Label)}

theorem nil (h : lo ≤ hi) : Laid lo hi [] where
  le := h
  within _ hs := absurd hs List.not_mem_nil
  apart := .nil
  enclosed _ hs := absurd hs List.not_mem_nil

theorem mono_left (h : Laid lo hi as) (hle : lo' ≤ lo) : Laid lo' hi as where
  le := Nat.le_trans hle h.le
  within s hs p hp := (h.within s hs p hp).mono hle (Nat.le_refl hi)
  apart := h.apart
  enclosed := h.enclosed

theorem append (ha : Laid lo mid as) (hb : Laid mid hi bs) : Laid lo hi (as ++ bs) where
  le := Nat.le_trans ha.le hb.le
  within s hs p hp := by
    rcases List.mem_append.1 hs with hs | hs
    · exact (ha.within s hs p hp).mono (Nat.le_refl lo) hb.le
    · exact (hb.within s hs p hp).mono ha.le (Nat.le_refl hi)
  apart := by
    refine List.pairwise_append.2 ⟨ha.apart, hb.apart, fun s hs t ht p q hp hq => ?_⟩
    exact Int.le_trans (ha.within s hs p hp).le_hi (hb.within t ht q hq).lo_le
  enclosed s hs := by
    rcases List.mem_append.1 hs with hs | hs
    · exact ha.enclosed s hs
    · exact hb.enclosed s hs

/-- A label that is no text with a place stands anywhere. -/
theorem single_of_eq_none (h : l.textPosition? = none) (hle : lo ≤ hi) :
    Laid lo hi [(l, above)] where
  le := hle
  within s hs p hp := by
    cases List.mem_singleton.1 hs
    cases h.symm.trans hp
  apart := List.pairwise_singleton _ _
  enclosed s hs p _ hp := by
    cases List.mem_singleton.1 hs
    cases h.symm.trans hp

/-- A text between two places stands in what goes beyond both of them. -/
theorem single {p : Position} (h : l.textPosition? = some p) (hp : p.Within True lo hi)
    (hle : lo ≤ hi) (habove : ∀ q, above.findSome? (·.position) = some q →
      q.start.offset ≤ lo ∧ (hi : Int) ≤ q.stop.offset) : Laid lo hi [(l, above)] where
  le := hle
  within s hs p' hp' := by
    cases List.mem_singleton.1 hs
    cases h.symm.trans hp'
    exact hp
  apart := List.pairwise_singleton _ _
  enclosed s hs p' q hp' hq := by
    cases List.mem_singleton.1 hs
    cases h.symm.trans hp'
    rcases habove q hq with ⟨hstart, hstop⟩
    exact ⟨Int.le_trans hstart hp.lo_le, Int.le_trans hp.le_hi hstop⟩

theorem branch {cs : List Node} (h : l.textPosition? = none) (hle : lo ≤ mid)
    (hcs : Laid mid hi (Node.lineageAll (l :: above) cs)) :
    Laid lo hi ((Node.branch l cs).lineage above) :=
  (single_of_eq_none h hle).append hcs

end Laid

/-! ## The walk -/

namespace Markdown.Walk

variable {source : Text} {w : Walk} {above : List Label} {cursor cursor' : Nat}

/-- The innermost block around has begun at the cursor or before it, and does not end before the
limit. -/
def Surrounded (w : Walk) (above : List Label) (cursor : Nat) : Prop :=
  ∀ q, above.findSome? (·.position) = some q →
    q.start.offset ≤ cursor ∧ (w.limit : Int) ≤ q.stop.offset

theorem Surrounded.mono (h : w.Surrounded above cursor) (hle : cursor ≤ cursor') :
    w.Surrounded above cursor' := by
  intro q hq
  rcases h q hq with ⟨hstart, hstop⟩
  exact ⟨by omega, hstop⟩

/-- What is in a block is surrounded by it, or by what is around it if it has no lines. -/
theorem Surrounded.inside (h : w.Surrounded above cursor) (head : Element.Head) {l : Label}
    (hl : l.position = (w.blockPosition head cursor).1) :
    (w.inside (w.blockPosition head cursor).1).Surrounded (l :: above)
      (w.blockPosition head cursor).2 := by
  intro q hq
  rw [List.findSome?_cons, hl] at hq
  unfold blockPosition at hq ⊢
  cases hlines : head.lines with
  | none =>
      rw [hlines] at hq
      exact h q hq
  | some lines =>
      rw [hlines] at hq
      cases hq
      have hstart := w.index.clamp_natCast (w.index.lineOffset lines.1)
      refine ⟨?_, ?_⟩
      · change (w.index.clamp _ : Int) ≤ (max cursor _ : Nat)
        omega
      · change (((w.index.clamp _ : Int).toNat : Nat) : Int) ≤ w.index.clamp _
        omega

/-- A text that is found is laid between the cursor before it and the place behind it. -/
theorem laid_textNode (hw : w.index = .ofText source) (h : w.Surrounded above cursor) (t : Text) :
    Laid cursor (w.textNode t cursor).2 ((w.textNode t cursor).1.lineage above) := by
  unfold textNode
  split
  · exact .single_of_eq_none rfl (Nat.le_refl cursor)
  · next m place hlocate =>
      -- The first and the last character of the text bound its range.
      have hlocate' : Markdown.locate? source w.limit t cursor = some (m, place) := by
        rwa [Walk.locate?, hw] at hlocate
      have hne := (cases_of_locate? hlocate').1
      have hsegments := (traces_of_locate? hlocate').segments_ne_nil hne
      have hlimit := le_limit_of_locate? hlocate'
      rcases advances_of_locate? hlocate' with ⟨B, hfirst, hlast, hadvances⟩
      rcases OffsetMap.exists_span? hsegments 0 t.length with ⟨range, hrange⟩
      have hwithin := hadvances.within (List.length_pos_iff.2 hne) (Nat.le_refl _) hrange
      refine .single (p := w.index.position range.1 range.2) ?_ ?_ (le_of_locate? hlocate') ?_
      · rw [hrange]
        rfl
      · rw [hw]
        exact hwithin.mono hfirst hlast
      · intro q hq
        rcases h q hq with ⟨hstart, hstop⟩
        exact ⟨hstart, Int.le_trans (Int.ofNat_le.2 hlimit) hstop⟩

theorem laid_textNodes (hw : w.index = .ofText source) (h : w.Surrounded above cursor)
    (t : Option Text) :
    Laid cursor (w.textNodes t cursor).2 (Node.lineageAll above (w.textNodes t cursor).1) := by
  cases t with
  | none => exact .nil (Nat.le_refl cursor)
  | some t =>
      rw [textNodes, Node.lineageAll, Node.lineageAll, List.append_nil]
      exact laid_textNode hw h t

mutual

/-- The texts of an element are laid between the cursor before it and the cursor behind it. -/
theorem laid_node {w : Walk} (hw : w.index = .ofText source) {above : List Label} :
    ∀ (e : Element) {cursor : Nat}, w.Surrounded above cursor →
      Laid cursor (w.node cursor e).2 ((w.node cursor e).1.lineage above)
  | .node h cs, cursor, hsurrounded => by
      have hblock := le_blockPosition w h cursor
      rw [node]
      dsimp only
      split
      · next hliteral =>
          refine .single_of_eq_none (Label.textPosition?_of_type_ne (literal_ne_text hliteral)) ?_
          split
          · exact Nat.le_trans hblock (le_passOver hw _ _)
          · exact hblock
      · split
        · exact (laid_textNode hw (hsurrounded.mono hblock) h.content).mono_left hblock
        · next htype =>
            split
            · exact .single_of_eq_none (Label.textPosition?_of_type_ne htype) hblock
            · -- The limit of the block holds for its children only;
            -- what follows takes up the cursor.
              have hindex := (index_inside w (w.blockPosition h cursor).1).trans hw
              exact .branch (Label.textPosition?_of_type_ne htype) hblock
                (laid_blockNodes hindex cs (hsurrounded.inside h rfl))

/-- The texts of some blocks are laid from the cursor on. -/
theorem laid_blockNodes {w : Walk} (hw : w.index = .ofText source) {above : List Label} :
    ∀ (es : List Element) {cursor : Nat}, w.Surrounded above cursor →
      Laid cursor (w.blockNodes cursor es).2 (Node.lineageAll above (w.blockNodes cursor es).1)
  | [], cursor, _ => by
      rw [blockNodes]
      exact .nil (Nat.le_refl cursor)
  | .node h ks :: cs, cursor, hsurrounded => by
      rw [blockNodes]
      dsimp only
      rw [Node.lineageAll_append]
      split
      · have hfirst := laid_inlineNodes hw none ks hsurrounded
        exact hfirst.append (laid_blockNodes hw cs (hsurrounded.mono hfirst.le))
      · have hfirst := laid_node hw (.node h ks) hsurrounded
        rw [Node.lineageAll, Node.lineageAll, List.append_nil]
        exact hfirst.append (laid_blockNodes hw cs (hsurrounded.mono hfirst.le))

/-- The texts of running text are laid from the cursor on. -/
theorem laid_inlineNodes {w : Walk} (hw : w.index = .ofText source) {above : List Label}
    (run : Option Text) :
    ∀ (es : List Element) {cursor : Nat}, w.Surrounded above cursor →
      Laid cursor (w.inlineNodes run cursor es).2
        (Node.lineageAll above (w.inlineNodes run cursor es).1)
  | [], cursor, hsurrounded => by
      rw [inlineNodes]
      exact laid_textNodes hw hsurrounded run
  | .node h ks :: cs, cursor, hsurrounded => by
      rw [inlineNodes]
      split
      · exact laid_inlineNodes hw _ cs hsurrounded
      · -- The run that was gathered so far is laid before the node that ends it.
        have hbefore := laid_textNodes hw hsurrounded run
        have hsurrounded' := hsurrounded.mono hbefore.le
        have hnode := laid_node hw (.node h ks) hsurrounded'
        have hrest := laid_inlineNodes hw none cs (hsurrounded'.mono hnode.le)
        dsimp only
        rw [Node.lineageAll_append, Node.lineageAll]
        exact hbefore.append (hnode.append hrest)

end

end Markdown.Walk

/-! ## Documents -/

namespace Node

theorem laid_ofElement (source : Text) (e : Markdown.Element) :
    ∃ hi, Laid 0 hi ((ofElement source e).lineage []) := by
  have hroot : Markdown.Element.rootType ≠ Markdown.Element.textType := by decide
  refine ⟨_, .branch (Label.textPosition?_of_type_ne hroot) (Nat.le_refl 0)
    (Markdown.Walk.laid_blockNodes (w := .ofText source) rfl e.children ?_)⟩
  intro q hq
  cases hq
  have hstop : (LineIndex.ofText source).clamp source.length = source.length :=
    LineIndex.clamp_of_le (Nat.le_refl _)
  exact ⟨Int.le_refl 0, Int.ofNat_le.2 (Nat.le_of_eq hstop.symm)⟩

/-- In the document of any elements, whatever the lines of its blocks, a text with a place stands in
the range of the nearest node above it that has one, and the ranges of these texts are not empty and
stand one behind another. -/
theorem texts_enclosed_ofElement (source : Text) (e : Markdown.Element) :
    (∀ s ∈ (ofElement source e).lineage [], ∀ p q, s.1.textPosition? = some p →
      s.2.findSome? (·.position) = some q →
        q.start.offset ≤ p.start.offset ∧ p.stop.offset ≤ q.stop.offset) ∧
      (∀ p ∈ (ofElement source e).labels.filterMap (·.textPosition?),
        p.start.offset < p.stop.offset) ∧
      ((ofElement source e).labels.filterMap (·.textPosition?)).Pairwise fun p q =>
        p.stop.offset ≤ q.start.offset := by
  rcases laid_ofElement source e with ⟨hi, hlaid⟩
  refine ⟨hlaid.enclosed, ?_, ?_⟩
  · intro p hp
    rw [← map_fst_lineage [], List.filterMap_map] at hp
    rcases List.mem_filterMap.1 hp with ⟨s, hs, hposition⟩
    exact (hlaid.within s hs p hposition).start_lt trivial
  · rw [← map_fst_lineage [], List.filterMap_map]
    exact List.pairwise_filterMap.2 (hlaid.apart.imp fun hst p hp q hq => hst p q hp hq)

/-- A block on later lines than the one around it: its text stands in the inner range. -/
theorem texts_enclosed_ofElement_laterBlock :
    ∃ s ∈ (ofElement ['a', '\n', 'b', '\n', 'c'] (.node { type := "root" }
        [.node { type := "list_item", lines := some (0, 1) }
          [.node { type := "paragraph", lines := some (1, 3) }
              [.node { type := "inline" } [.text ['b']]],
            .node { type := "inline" } [.text ['a']]]])).lineage [],
      s.1.textPosition? = some ⟨⟨2, 1, 2⟩, ⟨2, 2, 3⟩⟩ ∧
        s.2.findSome? (·.position) = some ⟨⟨2, 1, 2⟩, ⟨3, 2, 5⟩⟩ ∧
        (2 : Int) ≤ 2 ∧ (3 : Int) ≤ 5 := by
  have htext : ((ofElement ['a', '\n', 'b', '\n', 'c'] (.node { type := "root" }
      [.node { type := "list_item", lines := some (0, 1) }
        [.node { type := "paragraph", lines := some (1, 3) }
            [.node { type := "inline" } [.text ['b']]],
          .node { type := "inline" } [.text ['a']]]])).lineage [])[3]?.map
        (fun s => (s.1.textPosition?, s.2.findSome? (·.position))) =
      some (some ⟨⟨2, 1, 2⟩, ⟨2, 2, 3⟩⟩, some ⟨⟨2, 1, 2⟩, ⟨3, 2, 5⟩⟩) := by decide +kernel
  rcases Option.map_eq_some_iff.1 htext with ⟨s, hs, hranges⟩
  rw [Prod.mk.injEq] at hranges
  have hmem := List.mem_of_getElem? hs
  exact ⟨s, hmem, hranges.1, hranges.2,
    (texts_enclosed_ofElement _ _).1 s hmem _ _ hranges.1 hranges.2⟩

end Node
end LiquidMarkdown
