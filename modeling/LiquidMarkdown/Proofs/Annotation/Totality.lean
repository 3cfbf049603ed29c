import LiquidMarkdown.Proofs.Annotation.Bare
import LiquidMarkdown.Proofs.Document.Segmentation
import LiquidMarkdown.Proofs.Source.OffsetMap

/-!
# When annotating succeeds

A document can be annotated unless its root is no node with children, a text that may hold
constructs carries an offset map without segments, or a block was given no children.  This file
defines:

* `Label.Placeable` — no text that may hold constructs has an offset map without segments;
* `Node.Annotatable` — all labels are placeable, and all blocks have a list of children;
* `Node.exists_segmentAll` — the texts of such nodes can be split, and the result is of this kind;
* `exists_annotate` — such a document can be annotated.
-/

namespace LiquidMarkdown

/-! ## Placements -/

/-- The offset map of a text that may hold constructs has a segment. -/
def Label.Placeable (l : Label) : Prop :=
  ∀ t m, l.openText? = some t → l.data.offsets? = some m → m.segments ≠ []

/-- The offset map of a text has a segment. -/
def Placement.Placeable (p : Placement) : Prop :=
  ∀ m, p.offsets = some m → m.segments ≠ []

/-- Marking a text as literal leaves its offset map. -/
theorem Data.offsets?_put_verbatim (d : Data) (v : Datum) :
    (d.put verbatimKey v).offsets? = d.offsets? := by
  -- The two names differ, so that an entry under one is none under the other.
  have hkey : (offsetsKey == verbatimKey) = false := by decide
  have hget : (d.put verbatimKey v).get? offsetsKey = d.get? offsetsKey := by
    unfold put
    split
    · clear * - hkey
      induction d with
      | nil => rfl
      | cons f d ih =>
          simp only [get?, List.map_cons] at ih ⊢
          by_cases hf : f.1 = verbatimKey
          · have hne : (offsetsKey == f.1) = false := by rw [hf, hkey]
            rcases f with ⟨k, u⟩
            simp only at hf hne
            rw [if_pos hf, List.lookup_cons, List.lookup_cons, hkey, hne, ih]
          · rcases f with ⟨k, u⟩
            rw [if_neg hf, List.lookup_cons, List.lookup_cons, ih]
    · simp only [get?, List.lookup_append, List.lookup_cons, hkey, List.lookup_nil,
        Option.or_none]
  unfold offsets?
  rw [hget]

namespace Placement

variable {p : Placement}

theorem placeable_of_label {l : Label} {t : Text} (h : l.Placeable) (ho : l.openText? = some t)
    (index : Option LineIndex) : (l.placement index).Placeable := by
  intro m hm
  simp only [Label.placement, ofText] at hm
  cases hm' : l.data.offsets? with
  | none =>
      rw [hm', Option.none_or] at hm
      rcases Option.map_eq_some_iff.1 hm with ⟨o, _, rfl⟩
      exact List.cons_ne_nil _ _
  | some m' =>
      rw [hm', Option.some_or] at hm
      cases hm
      exact h t m ho hm'

theorem exists_position (h : p.Placeable) (start stop : Nat) :
    ∃ position, p.position start stop = .ok position := by
  unfold position
  cases hm : p.offsets with
  | none => exact ⟨none, rfl⟩
  | some m =>
      cases p.index with
      | none => exact ⟨none, rfl⟩
      | some ix =>
          rcases OffsetMap.exists_span? (h m hm) start stop with ⟨s, hs⟩
          exact ⟨some (ix.position s.1 s.2), by simp [hs]⟩

/-- A part of a text carries a map with a segment too, if it carries one. -/
theorem exists_dataAt (h : p.Placeable) (start : Nat) :
    ∃ data, p.dataAt start = .ok data ∧
      ∀ m, data.offsets? = some m → m.segments ≠ [] := by
  unfold dataAt
  cases hm : p.offsets with
  | none => exact ⟨[], rfl, fun m hm => by simp [Data.offsets?, Data.get?] at hm⟩
  | some m =>
      by_cases hc : m.isContiguous
      · exact ⟨[], by simp [hc], fun m hm => by simp [Data.offsets?, Data.get?] at hm⟩
      · rcases OffsetMap.exists_shift? (h m hm) start with ⟨m', hs, hne⟩
        refine ⟨[(Data.offsetsKey, .offsets m')], by simp [hc, hs], ?_⟩
        intro m'' hm''
        simp only [Data.offsets?, Data.get?, List.lookup_cons, beq_self_eq_true] at hm''
        cases hm''
        exact hne

theorem exists_textLabel (h : p.Placeable) (start : Nat) (t : Text) :
    ∃ l, p.textLabel start t = .ok l ∧ ∀ m, l.data.offsets? = some m → m.segments ≠ [] := by
  rcases exists_position h start (start + t.length) with ⟨position, hp⟩
  rcases exists_dataAt h start with ⟨data, hd, hdata⟩
  refine ⟨{ type := Label.textType, value := some t, position := position, data := data }, ?_,
    hdata⟩
  rw [textLabel, hp, hd]
  rfl

theorem exists_tagLabel (h : p.Placeable) (start : Nat) (raw : Text) :
    ∃ l, p.tagLabel start raw = .ok l ∧ l.Placeable := by
  rcases exists_position h start (start + raw.length) with ⟨position, hp⟩
  exact ⟨.tag raw position, by rw [tagLabel, hp]; rfl, fun t m _ hm => by cases hm⟩

end Placement

/-! ## Nodes -/

namespace Node

/-- Every label is placeable, and every block has a list of children. -/
structure Annotatable (n : Node) : Prop where
  placeable : ∀ l ∈ n.labels, l.Placeable
  branches : ∀ l, stub l ∈ n.nodes → ∀ name c, l.kind ≠ .block name c

theorem Annotatable.of_mem {l : Label} {cs : List Node} (h : (branch l cs).Annotatable) {c : Node}
    (hc : c ∈ cs) : c.Annotatable where
  placeable k hk := by
    rw [labels_eq_map_nodes] at hk
    rcases List.mem_map.1 hk with ⟨b, hb, rfl⟩
    have hbelow : b ∈ (branch l cs).nodes := List.mem_cons_of_mem _ (mem_nodesAll.2 ⟨c, hc, hb⟩)
    exact h.placeable _ (label_mem_labels hbelow)
  branches k hk := h.branches k (List.mem_cons_of_mem _ (mem_nodesAll.2 ⟨c, hc, hk⟩))

theorem annotatable_branch {l : Label} {cs : List Node} (hl : l.Placeable)
    (hcs : ∀ c ∈ cs, c.Annotatable) : (branch l cs).Annotatable where
  placeable k hk := by
    rw [labels, labelsAll_eq_map_nodesAll] at hk
    rcases List.mem_cons.1 hk with rfl | hk
    · exact hl
    · rcases List.mem_map.1 hk with ⟨b, hb, rfl⟩
      rcases mem_nodesAll.1 hb with ⟨c, hc, hbc⟩
      exact (hcs c hc).placeable _ (label_mem_labels hbc)
  branches k hk := by
    rcases List.mem_cons.1 hk with hk | hk
    · cases hk
    · rcases mem_nodesAll.1 hk with ⟨c, hc, hkc⟩
      exact (hcs c hc).branches k hkc

theorem annotatable_leaf {l : Label} (hl : l.Placeable) : (leaf l).Annotatable :=
  annotatable_branch hl fun _ hc => absurd hc List.not_mem_nil

theorem Annotatable.label_placeable {n : Node} (h : n.Annotatable) : n.label.Placeable :=
  h.placeable _ (label_mem_labels_self n)

/-! ## Splitting -/

variable {p : Placement}

theorem exists_bodyNodes (h : p.Placeable) (start : Nat) (body : Text) (isVerbatim : Bool) :
    ∃ ns, p.bodyNodes start body isVerbatim = .ok ns ∧ ∀ n ∈ ns, n.Annotatable := by
  by_cases hb : body = []
  · exact ⟨[], by rw [Placement.bodyNodes, if_pos hb]; rfl, fun n hn => absurd hn List.not_mem_nil⟩
  · rcases Placement.exists_textLabel h start body with ⟨l, hl, hp⟩
    refine ⟨_, by rw [Placement.bodyNodes, if_neg hb, hl]; rfl, ?_⟩
    intro n hn
    rw [List.mem_singleton.1 hn]
    refine annotatable_leaf fun t m _ hm => hp m ?_
    cases isVerbatim with
    | true =>
        simp only [if_true] at hm
        rwa [Data.offsets?_put_verbatim] at hm
    | false => simpa using hm

theorem exists_node (h : p.Placeable) (start : Nat) (q : Piece) :
    ∃ n, p.node start q = .ok n ∧ n.Annotatable := by
  cases q with
  | text t =>
      rcases Placement.exists_textLabel h start t with ⟨l, hl, hp⟩
      exact ⟨.leaf l, by rw [Placement.node, hl]; rfl, annotatable_leaf fun _ m _ hm => hp m hm⟩
  | expression raw =>
      rcases Placement.exists_position h start (start + raw.length) with ⟨position, hp⟩
      exact ⟨_, by rw [Placement.node, hp]; rfl, annotatable_leaf fun t m _ hm => by cases hm⟩
  | tag raw =>
      rcases Placement.exists_tagLabel h start raw with ⟨l, hl, hp⟩
      exact ⟨.leaf l, by rw [Placement.node, hl]; rfl, annotatable_leaf hp⟩
  | block opening body closing isVerbatim =>
      rcases Placement.exists_tagLabel h start opening with ⟨first, hf, hfp⟩
      rcases exists_bodyNodes h (start + opening.length) body isVerbatim with ⟨inner, hi, hip⟩
      obtain ⟨last, hl, hlp⟩ :=
        Placement.exists_tagLabel h (start + opening.length + body.length) closing
      obtain ⟨position, hp⟩ := Placement.exists_position h start
        (start + (opening ++ body ++ closing).length)
      refine ⟨_, by simp only [Placement.node, hf, hi, hl, hp]; rfl,
        annotatable_branch (fun t m _ hm => by cases hm) ?_⟩
      intro c hc
      rcases List.mem_cons.1 hc with rfl | hc
      · exact annotatable_leaf hfp
      · rcases List.mem_append.1 hc with hc | hc
        · exact hip c hc
        · rw [List.mem_singleton.1 hc]
          exact annotatable_leaf hlp

theorem exists_nodes (h : p.Placeable) (qs : List Piece) (start : Nat) :
    ∃ ns, p.nodes start qs = .ok ns ∧ ∀ n ∈ ns, n.Annotatable := by
  induction qs generalizing start with
  | nil => exact ⟨[], rfl, fun n hn => absurd hn List.not_mem_nil⟩
  | cons q qs ih =>
      rcases exists_node h start q with ⟨n, hn, ha⟩
      rcases ih (start + q.source.length) with ⟨ns, hns, has⟩
      refine ⟨n :: ns, by rw [Placement.nodes, hn, hns]; rfl, ?_⟩
      intro m hm
      rcases List.mem_cons.1 hm with rfl | hm
      · exact ha
      · exact has m hm

theorem exists_splitText (h : p.Placeable) (T : TagTables) {t : Text} (ht : t ≠ []) :
    ∃ ns, splitText T p t = .ok ns ∧ ∀ n ∈ ns, n.Annotatable := by
  rw [splitText, if_neg ht]
  exact exists_nodes h _ 0

/-- A step that may fail succeeds on a list if it succeeds on each member. -/
theorem exists_mapM {α β : Type} {Q : β → Prop} {f : α → Except DocumentError β} {as : List α}
    (h : ∀ a ∈ as, ∃ b, f a = .ok b ∧ Q b) : ∃ bs, as.mapM f = .ok bs ∧ ∀ b ∈ bs, Q b := by
  induction as with
  | nil => exact ⟨[], rfl, fun b hb => absurd hb List.not_mem_nil⟩
  | cons a as ih =>
      rcases h a List.mem_cons_self with ⟨b, hb, hQ⟩
      rcases ih fun a ha => h a (List.mem_cons_of_mem _ ha) with ⟨bs, hbs, hQs⟩
      refine ⟨b :: bs, by rw [List.mapM_cons, hb, hbs]; rfl, ?_⟩
      intro c hc
      rcases List.mem_cons.1 hc with rfl | hc
      · exact hQ
      · exact hQs c hc

/-- The texts of nodes can be split where they can be placed.  What holds of annotatable nodes, and
of nodes by their children, holds of the result. -/
theorem exists_segmentAll_of {P : Node → Prop} (hplaceable : ∀ n, P n → n.label.Placeable)
    (hchildren : ∀ l cs, P (branch l cs) → ∀ c ∈ cs, P c)
    (hbranch : ∀ l cs, l.Placeable → (∀ c ∈ cs, P c) → P (branch l cs))
    (hannotatable : ∀ n : Node, n.Annotatable → P n) (T : TagTables) (index : Option LineIndex)
    {ns : List Node} (h : ∀ n ∈ ns, P n) :
    ∃ ns', segmentAll T index ns = .ok ns' ∧ ∀ n ∈ ns', P n := by
  generalize hk : unsplitSizeAll ns = k
  -- The recursion goes by the text that is left, as splitting itself does.
  induction k using Nat.strongRecOn generalizing ns with
  | ind k ih =>
    cases ns with
    | nil => exact ⟨[], segmentAll_nil, fun n hn => absurd hn List.not_mem_nil⟩
    | cons c ns =>
        have hc := h c List.mem_cons_self
        have hrest : unsplitSizeAll ns < k := by
          simp only [← hk, unsplitSizeAll]
          omega
        have hbelow := c.unsplitBelow_lt
        rcases ih _ hrest (fun n hn => h n (List.mem_cons_of_mem _ hn)) rfl with ⟨rest, hr, hra⟩
        -- A branch with less text below it than the whole can be split.
        have hsegment (n : Node) (hn : P n) (hlt : n.unsplitBelow < k) :
            ∃ n', segment T index n = .ok n' ∧ P n' := by
          cases n with
          | stub l => exact ⟨_, segment_stub l, hn⟩
          | branch l cs =>
              rcases ih _ hlt (hchildren l cs hn) rfl with ⟨cs', hcs, hcsa⟩
              exact ⟨.branch l cs', by rw [segment_branch, hcs]; rfl,
                hbranch l cs' (hplaceable _ hn) hcsa⟩
        have hcons (first : List Node) (hf : ∀ n ∈ first, P n) : ∀ n ∈ first ++ rest, P n := by
          intro n hn
          rcases List.mem_append.1 hn with hn | hn
          · exact hf n hn
          · exact hra n hn
        cases ho : c.label.openText? with
        | none =>
            have hlt : c.unsplitBelow < k := by
              simp only [← hk, unsplitSizeAll]
              omega
            rcases hsegment c hc hlt with ⟨first, hf, hfa⟩
            refine ⟨first :: rest, by rw [segmentAll_cons_closed ho, hf, hr]; rfl, ?_⟩
            exact hcons [first] fun n hn => by rwa [List.mem_singleton.1 hn]
        | some t =>
            have ht := (Label.eq_of_openText? ho).2.2
            obtain ⟨split, hs, hsa⟩ :=
              exists_splitText (Placement.placeable_of_label (hplaceable c hc) ho index) T ht
            have hlt (n : Node) (hn : n ∈ split) : n.unsplitBelow < k := by
              have hle := unsplitBelow_le_of_mem hs hn
              simp only [ho, Option.getD_some] at hbelow
              simp only [← hk, unsplitSizeAll]
              omega
            have hfirst : ∃ first, replacement T index c t split = .ok first ∧
                ∀ n ∈ first, P n := by
              unfold replacement
              split
              · exact ⟨[c], rfl, fun n hn => by rwa [List.mem_singleton.1 hn]⟩
              · exact exists_mapM fun n hn => hsegment n (hannotatable n (hsa n hn)) (hlt n hn)
            rcases hfirst with ⟨first, hf, hfa⟩
            exact ⟨first ++ rest, by rw [segmentAll_cons_open ho, hs]; simp only [bind,
              Except.bind, hf, hr, pure, Except.pure], hcons first hfa⟩

/-- The texts of annotatable nodes can be split. -/
theorem exists_segmentAll (T : TagTables) (index : Option LineIndex) {ns : List Node}
    (h : ∀ n ∈ ns, n.Annotatable) :
    ∃ ns', segmentAll T index ns = .ok ns' ∧ ∀ n ∈ ns', n.Annotatable :=
  exists_segmentAll_of (fun _ hn => hn.label_placeable) (fun _ _ hn _ hc => hn.of_mem hc)
    (fun _ _ hl hcs => annotatable_branch hl hcs) (fun _ hn => hn) T index h

/-! ## Settling -/

mutual

theorem exists_settleBlocks : ∀ n : Node,
    (∀ l, stub l ∈ n.nodes → ∀ name c, l.kind ≠ .block name c) → ∃ m, n.settleBlocks = .ok m
  | branch l cs, h => by
      rcases exists_settleBlocksAll cs fun l hl => h l (List.mem_cons_of_mem _ hl) with ⟨cs', hcs⟩
      exact ⟨_, settleBlocks_branch_eq_ok_iff.2 ⟨cs', hcs, rfl⟩⟩
  | stub l, h => by
      exact ⟨stub l, settleBlocks_stub_eq_ok_iff.2 ⟨h l (mem_nodes_self _), rfl⟩⟩

theorem exists_settleBlocksAll : ∀ ns : List Node,
    (∀ l, stub l ∈ nodesAll ns → ∀ name c, l.kind ≠ .block name c) →
    ∃ ms, settleBlocksAll ns = .ok ms
  | [], _ => ⟨[], rfl⟩
  | c :: cs, h => by
      rcases exists_settleBlocks c fun l hl => h l (List.mem_append_left _ hl) with ⟨c', hc⟩
      rcases exists_settleBlocksAll cs fun l hl => h l (List.mem_append_right _ hl) with ⟨cs', hcs⟩
      exact ⟨_, settleBlocksAll_cons_eq_ok_iff.2 ⟨c', cs', hc, hcs, rfl⟩⟩

end

/-- Trees with the same bare labels have the same nodes without children. -/
theorem exists_stub_of_map_bare {n m : Node} (h : m.map Label.bare = n.map Label.bare) {l : Label}
    (hl : stub l ∈ m.nodes) : ∃ l', stub l' ∈ n.nodes ∧ l'.bare = l.bare := by
  rcases exists_mem_nodes_of_map_eq h hl with ⟨b, hb, he⟩
  cases b with
  | branch k cs => cases he
  | stub k => exact ⟨k, hb, by simpa [map] using he⟩

end Node

/-! ## The whole -/

theorem exists_segmentTree (T : TagTables) (index : Option LineIndex) {l : Label} {cs : List Node}
    (h : (Node.branch l cs).Annotatable) :
    ∃ cs', segmentTree T index (some (.branch l cs)) = .ok (.branch l cs') ∧
      (Node.branch l cs').Annotatable := by
  rcases Node.exists_segmentAll T index fun c hc => h.of_mem hc with ⟨cs', hcs, ha⟩
  refine ⟨cs', by rw [segmentTree, Node.segment_branch, hcs]; rfl, ?_⟩
  exact Node.annotatable_branch h.label_placeable ha

/-- A document whose offset maps have segments and whose blocks have children can be annotated. -/
theorem exists_annotate (T : TagTables) (source : Option Text) {l : Label} {cs : List Node}
    (h : (Node.branch l cs).Annotatable) :
    ∃ m, annotate T source (some (.branch l cs)) = .ok m := by
  rcases exists_segmentTree T (source.map .ofText) h with ⟨cs', hs, ha⟩
  -- Between splitting and settling no node loses its children.
  have hbare : (((Node.branch l cs').map (Label.read T)).pairTags T).map Label.bare =
      (Node.branch l cs').map Label.bare := by
    rw [Node.map_bare_pairTags, Node.map_bare_map (Label.bare_read T)]
  obtain ⟨m, hm⟩ := Node.exists_settleBlocks _ fun k hk name c hkind => by
    rcases Node.exists_stub_of_map_bare hbare hk with ⟨k', hk', he⟩
    have hkinds := congrArg Label.kind he
    simp only [Label.bare, hkind, Kind.bare] at hkinds
    cases hk'kind : k'.kind with
    | block name' c' => exact ha.branches k' hk' name' c' hk'kind
    | plain | expression _ | tag _ => simp [hk'kind] at hkinds
  exact ⟨m, by rw [annotate]; simp only [hs, bind, Except.bind, hm]⟩

end LiquidMarkdown
