import LiquidMarkdown.Proofs.Annotation.Splicing
import LiquidMarkdown.Proofs.Document.Walk

/-!
# Splitting as expansion

What splitting makes of a tree can be said text by text: a text gives way to the nodes of its
pieces, in which the bodies of the blocks give way in the same manner, and everything around the
texts stays.  This file defines:

* `Node.expand` — what becomes of a text, with all the bodies in it;
* `Node.expandBelow` — a tree with each text below its root expanded, by recursion over the tree;
* `segment_eq_expandBelow` — splitting is expansion;
* `exists_expandBelow` — which succeeds if each text can be placed;
* `stays_of_segmentAll` — no text of a split tree would give way once more;
* `segmentTree_expands` — the three together, for the loop that splits a tree in place.

A text that splits into itself is not built anew: it stays with its own position and data.
-/

namespace LiquidMarkdown

namespace Node

/-- A node with other children, unless it is none that can have any. -/
def withChildren (cs : List Node) : Node → Node
  | branch l _ => branch l cs
  | stub l => stub l

theorem unsplitSize_lt_of_mem {ns : List Node} {n : Node} (h : n ∈ ns) :
    n.unsplitSize < unsplitSizeAll ns := by
  induction ns with
  | nil => cases h
  | cons m ns ih =>
      rw [unsplitSizeAll]
      rcases List.mem_cons.1 h with rfl | h
      · omega
      · have hlt := ih h
        omega

/-- The body of a block is shorter than the text that the block was split off. -/
theorem length_lt_of_mem_children {T : TagTables} {p : Placement} {t : Text} {split : List Node}
    (h : splitText T p t = .ok split) {n d : Node} (hn : n ∈ split) (hd : d ∈ n.children) :
    (d.label.openText?.getD []).length < t.length := by
  have hle := unsplitBelow_le_of_mem h hn
  have hlt := unsplitSize_lt_of_mem hd
  have hbelow := d.unsplitBelow_lt
  simp only [unsplitBelow] at hle hbelow
  omega

/-! ## Expansion -/

/-- What becomes of a text: the nodes of its pieces, with the bodies of the blocks among them
expanded in turn.  A text that splits into itself stays, unless it is to be built anew. -/
def expand (T : TagTables) (index : Option LineIndex) (rebuild : Bool) (c : Node) :
    Except DocumentError (List Node) :=
  match _ho : c.label.openText? with
  | none => .ok [c]
  | some t => match _hs : splitText T (c.label.placement index) t with
      | .error e => .error e
      | .ok split =>
          if !rebuild && isUnsplit t split then .ok [c]
          else split.attach.mapM fun ⟨n, _hn⟩ => do
            let ds ← n.children.attach.mapM fun ⟨d, _hd⟩ => expand T index rebuild d
            return n.withChildren ds.flatten
termination_by (c.label.openText?.getD []).length
decreasing_by
  have hlt := length_lt_of_mem_children _hs _hn _hd
  rwa [_ho, Option.getD_some]

mutual

/-- A tree with each text below its root expanded. -/
def expandBelow (T : TagTables) (index : Option LineIndex) (rebuild : Bool) :
    Node → Except DocumentError Node
  | branch l cs => do return branch l (← expandAll T index rebuild cs)
  | stub l => .ok (stub l)

def expandAll (T : TagTables) (index : Option LineIndex) (rebuild : Bool) :
    List Node → Except DocumentError (List Node)
  | [] => .ok []
  | c :: cs => do
      let first ← if c.label.openText?.isSome then expand T index rebuild c
        else (expandBelow T index rebuild c).map fun c' => [c']
      return first ++ (← expandAll T index rebuild cs)

end

theorem mapM_attach {α β : Type} {f : α → Except DocumentError β} (as : List α) :
    as.attach.mapM (fun a => f a.1) = as.mapM f := by
  rw [List.mapM_subtype (fun _ _ => rfl), List.unattach_attach]

section

variable {T : TagTables} {index : Option LineIndex} {rebuild : Bool} {c : Node} {t : Text}

theorem expand_closed (ho : c.label.openText? = none) : expand T index rebuild c = .ok [c] := by
  rw [expand]
  split
  · rfl
  · next u hu =>
      rw [ho] at hu
      cases hu

theorem expand_open (ho : c.label.openText? = some t) :
    expand T index rebuild c = splitText T (c.label.placement index) t >>= fun split =>
      if !rebuild && isUnsplit t split then pure [c]
      else split.mapM fun n => do
        let ds ← n.children.mapM (expand T index rebuild)
        return n.withChildren ds.flatten := by
  rw [expand]
  split
  · next hnone =>
      rw [ho] at hnone
      cases hnone
  · next u hu =>
      cases ho.symm.trans hu
      split
      · next e he =>
          rw [he]
          rfl
      · next split hs =>
          -- The recursion needs to know where a node comes from; its result does not depend on
          -- that.
          simp only [mapM_attach (f := expand T index rebuild)]
          rw [hs, mapM_attach (f := fun n : Node => do
            let ds ← n.children.mapM (expand T index rebuild)
            return n.withChildren ds.flatten)]
          rfl

/-! ## Splitting is expansion -/

/-- Below the nodes that a text falls into there is one level only. -/
theorem children_of_mem_children {p : Placement} {split : List Node}
    (h : splitText T p t = .ok split) {n d : Node} (hn : n ∈ split) (hd : d ∈ n.children) :
    d.children = [] := by
  rcases leaf_or_block_of_mem_splitText h hn with ⟨l, rfl⟩ | ⟨_, _, _, _, _, _, hq⟩
  · cases hd
  · rcases Placement.exists_of_node_block hq with ⟨position, first, inner, last, _, _, hi, _, rfl⟩
    rcases List.mem_cons.1 hd with rfl | hd
    · rfl
    rcases List.mem_append.1 hd with hd | hd
    · rcases Placement.exists_of_bodyNodes hi with ⟨_, rfl⟩ | ⟨_, l, _, rfl⟩
      · cases hd
      · rw [List.mem_singleton.1 hd]
        rfl
    · rw [List.mem_singleton.1 hd]
      rfl

/-- Nodes of one level are split as each text among them is expanded. -/
theorem segmentAll_of_expand {ds : List Node} (hchildren : ∀ d ∈ ds, d.children = [])
    (hexpand : ∀ d ∈ ds, ∀ u, d.label.openText? = some u →
      splitText T (d.label.placement index) u >>= replacement T index d u =
        expand T index false d) :
    segmentAll T index ds = ds.mapM (expand T index false) >>= fun new => pure new.flatten := by
  induction ds with
  | nil =>
      rw [segmentAll_nil]
      rfl
  | cons d ds ih =>
      have hrest := ih (fun e he => hchildren e (List.mem_cons_of_mem _ he))
        fun e he => hexpand e (List.mem_cons_of_mem _ he)
      rw [List.mapM_cons]
      cases ho : d.label.openText? with
      | none =>
          rw [segmentAll_cons_closed ho, hrest, expand_closed ho,
            segment_of_childless (hchildren d List.mem_cons_self)]
          simp only [bind_assoc, pure_bind]
          rfl
      | some u =>
          rw [segmentAll_cons_open ho, hrest, ← bind_assoc, hexpand d List.mem_cons_self u ho]
          simp only [bind_assoc, pure_bind, List.flatten_cons]

/-- A text is replaced by what it expands to. -/
theorem replacement_eq_expand (ho : c.label.openText? = some t) :
    splitText T (c.label.placement index) t >>= replacement T index c t =
      expand T index false c := by
  -- Texts in the nodes that take its place are shorter.
  induction hlen : t.length using Nat.strongRecOn generalizing c t with
  | ind k ih =>
    rw [expand_open ho]
    cases hs : splitText T (c.label.placement index) t with
    | error e => rfl
    | ok split =>
        have hbelow (n : Node) (hn : n ∈ split) : n.segment T index = (do
            let ds ← n.children.mapM (expand T index false)
            return n.withChildren ds.flatten) := by
          rcases exists_branch_of_splitText hs hn with ⟨l, ds, rfl⟩
          have hchildren (d : Node) (hd : d ∈ ds) : d.children = [] :=
            children_of_mem_children hs hn hd
          rw [segment_branch, segmentAll_of_expand hchildren fun d hd u hu => ?_]
          · simp only [bind_assoc, pure_bind, withChildren, children]
          · have hlt := length_lt_of_mem_children hs hn hd
            rw [hu, Option.getD_some, hlen] at hlt
            exact ih _ hlt hu rfl
        change replacement T index c t split =
          if !false && isUnsplit t split then pure [c] else split.mapM _
        unfold replacement
        cases isUnsplit t split with
        | true => rfl
        | false => exact mapM_congr_of_mem hbelow

end

section

variable {T : TagTables} {index : Option LineIndex}

mutual

theorem segment_eq_expandBelow : ∀ n : Node,
    segment T index n = expandBelow T index false n
  | branch l cs => by rw [segment_branch, expandBelow, segmentAll_eq_expandAll cs]
  | stub l => segment_stub l

theorem segmentAll_eq_expandAll : ∀ ns : List Node,
    segmentAll T index ns = expandAll T index false ns
  | [] => segmentAll_nil
  | c :: cs => by
      rw [expandAll, ← segmentAll_eq_expandAll cs]
      cases ho : c.label.openText? with
      | none =>
          rw [segmentAll_cons_closed ho, segment_eq_expandBelow c]
          cases expandBelow T index false c <;> rfl
      | some t =>
          rw [segmentAll_cons_open ho, ← bind_assoc, replacement_eq_expand ho]
          rfl

end

/-! ## Success -/

variable {rebuild : Bool}

theorem exists_ok_mapM {α β : Type} {f : α → Except DocumentError β} {as : List α}
    (h : ∀ a ∈ as, ∃ b, f a = .ok b) : ∃ bs, as.mapM f = .ok bs := by
  have hall (a : α) (ha : a ∈ as) : ∃ b, f a = .ok b ∧ True := by
    rcases h a ha with ⟨b, hb⟩
    exact ⟨b, hb, trivial⟩
  rcases exists_mapM hall with ⟨bs, hbs, _⟩
  exact ⟨bs, hbs⟩

/-- A text that can be placed is expanded. -/
theorem exists_expand {c : Node} (hc : c.label.Placeable) :
    ∃ ns, expand T index rebuild c = .ok ns := by
  induction hlen : (c.label.openText?.getD []).length using Nat.strongRecOn generalizing c with
  | ind k ih =>
    cases ho : c.label.openText? with
    | none => exact ⟨[c], expand_closed ho⟩
    | some t =>
        have ht := (Label.eq_of_openText? ho).2.2
        obtain ⟨split, hs, hannotatable⟩ :=
          exists_splitText (Placement.placeable_of_label hc ho index) T ht
        rw [expand_open ho, hs]
        change ∃ ns, (if !rebuild && isUnsplit t split then pure [c] else _) = Except.ok ns
        split
        · exact ⟨[c], rfl⟩
        · refine exists_ok_mapM fun n hn => ?_
          have hbelow : ∃ ds, n.children.mapM (expand T index rebuild) = .ok ds := by
            refine exists_ok_mapM fun d hd => ?_
            have hlt := length_lt_of_mem_children hs hn hd
            rw [← Option.getD_some (a := t) (b := []), ← ho, hlen] at hlt
            rcases exists_branch_of_splitText hs hn with ⟨l, ds, rfl⟩
            exact ih _ hlt ((hannotatable _ hn).of_mem hd).label_placeable rfl
          rcases hbelow with ⟨ds, hds⟩
          exact ⟨n.withChildren ds.flatten, by rw [hds]; rfl⟩

mutual

theorem exists_expandBelow : ∀ n : Node, (∀ k ∈ labelsAll n.children, k.Placeable) →
    ∃ m, expandBelow T index rebuild n = .ok m
  | branch l cs, h => by
      rcases exists_expandAll cs h with ⟨cs', hcs⟩
      exact ⟨branch l cs', by rw [expandBelow, hcs]; rfl⟩
  | stub l, _ => ⟨stub l, rfl⟩

theorem exists_expandAll : ∀ ns : List Node, (∀ k ∈ labelsAll ns, k.Placeable) →
    ∃ ms, expandAll T index rebuild ns = .ok ms
  | [], _ => ⟨[], rfl⟩
  | c :: cs, h => by
      rcases forall_labelsAll_cons.1 h with ⟨hc, hcs⟩
      rcases exists_expandAll cs hcs with ⟨rest, hrest⟩
      rw [expandAll, hrest]
      split
      · rcases exists_expand (hc _ (label_mem_labels_self c)) with ⟨first, hfirst⟩
        exact ⟨first ++ rest, by rw [hfirst]; rfl⟩
      · have hbelow (k : Label) (hk : k ∈ labelsAll c.children) : k.Placeable :=
          h k (labelsAll_children_subset List.mem_cons_self hk)
        rcases exists_expandBelow c hbelow with ⟨c', hc'⟩
        exact ⟨c' :: rest, by rw [hc']; rfl⟩

end

/-! ## What is left -/

/-- No text of a split tree gives way once more. -/
theorem stays_of_segmentAll {ns ns' : List Node} (h : segmentAll T index ns = .ok ns') :
    (∀ n ∈ ns, n.TextsAreLeaves) → ∀ k ∈ labelsAll ns', k.Stays T index := by
  refine segmentAll_induction (P := fun ns ns' =>
    (∀ n ∈ ns, n.TextsAreLeaves) → ∀ k ∈ labelsAll ns', k.Stays T index)
    ?nil ?branch ?stub ?kept ?replaced h
  case nil =>
    intro _ k hk
    cases hk
  case branch =>
    intro l cs cs' ns ns' ho ihBelow ihRest hleaves
    rcases List.forall_mem_cons.1 hleaves with ⟨hl, hns⟩
    have hbelow := ihBelow fun c hc => hl.of_mem hc
    exact forall_labelsAll_cons.2
      ⟨forall_labels_branch.2 ⟨Label.stays_of_closed ho, hbelow⟩, ihRest hns⟩
  case stub =>
    intro l ns ns' ho ihRest hleaves
    have hl : ∀ k ∈ (stub l).labels, k.Stays T index :=
      List.forall_mem_singleton.2 (Label.stays_of_closed ho)
    exact forall_labelsAll_cons.2 ⟨hl, ihRest (List.forall_mem_cons.1 hleaves).2⟩
  case kept =>
    intro c t split ns ns' ho hs hu ihRest hleaves
    rcases List.forall_mem_cons.1 hleaves with ⟨hc, hns⟩
    have hstays : c.label.Stays T index := by
      intro u hu'
      cases ho.symm.trans hu'
      exact ⟨split, hs, hu⟩
    -- A text has no children, so that its own label is the only one.
    have hchildren := hc c (mem_nodes_self c) (Label.eq_of_openText? ho).1
    have hlabels : c.labels = [c.label] := by
      cases c with
      | stub l => rfl
      | branch l cs =>
          simp only [children] at hchildren
          rw [labels, hchildren]
          rfl
    have hall : ∀ k ∈ c.labels, k.Stays T index := by
      rw [hlabels]
      exact List.forall_mem_singleton.2 hstays
    exact forall_labelsAll_cons.2 ⟨hall, ihRest hns⟩
  case replaced =>
    intro c t split new ns ns' ho hs hu hnew ihRest hleaves
    rcases List.forall_mem_cons.1 hleaves with ⟨_, hns⟩
    have hspelled := (spells_of_splitText (Label.eq_of_openText? ho).2.2 hs).2
    have hstays (n : Node) (hn : n ∈ split) : n.label.Stays T index :=
      stays_of_mem_splitText hs hn
    refine forall_labelsAll_append.2 ⟨?_, ihRest hns⟩
    clear hs ho hu
    induction hnew with
    | nil =>
        intro k hk
        cases hk
    | @cons n n' split new hn _ ih =>
        rcases hn with ⟨l, ds, ds', rfl, rfl, _, hbelow⟩
        rcases List.forall_mem_cons.1 hspelled with ⟨hfirst, hrest⟩
        rcases List.forall_mem_cons.1 hstays with ⟨hl, hstays⟩
        have hds := hbelow fun d hd => (hfirst.of_mem hd).1
        exact forall_labelsAll_cons.2 ⟨forall_labels_branch.2 ⟨hl, hds⟩, ih hrest hstays⟩

end

end Node

/-- A text that stays splits into one text that says the same. -/
theorem Label.Stays.exists_leaf {T : TagTables} {index : Option LineIndex} {l : Label}
    (h : l.Stays T index) {t : Text} (ho : l.openText? = some t) :
    ∃ k, splitText T (l.placement index) t = .ok [.leaf k] ∧ k.type = Label.textType ∧
      k.value = some t := by
  rcases h t ho with ⟨split, hs, hu⟩
  have hpieces := h.pieces_eq ho
  rw [hs]
  rw [splitText, if_neg (eq_of_openText? ho).2.2, hpieces] at hs
  rcases exists_ok_of_bind hs with ⟨n, hn, hrest⟩
  cases hrest
  rcases Placement.exists_of_node_text hn with ⟨k, hk, rfl⟩
  rcases Placement.exists_of_textLabel hk with ⟨position, data, _, _, rfl⟩
  exact ⟨_, rfl, rfl, rfl⟩

/-! ## The whole -/

/-- The loop that splits a tree in place ends, with the tree in which each text below the root is
expanded, and no text of that tree would give way once more. -/
theorem segmentTree_expands (T : TagTables) (index : Option LineIndex) {l : Label} {cs : List Node}
    (hleaves : (Node.branch l cs).TextsAreLeaves) :
    (∀ r, (Walk.start (.branch l cs)).Ends T index r ↔
      r = (segmentTree T index (some (.branch l cs))).map fun m =>
        (m, (Node.branch l cs).splitCount T)) ∧
    segmentTree T index (some (.branch l cs)) = (Node.branch l cs).expandBelow T index false ∧
    ((∀ k ∈ Node.labelsAll cs, k.Placeable) →
      ∃ cs', segmentTree T index (some (.branch l cs)) = .ok (.branch l cs')) ∧
    ∀ m, segmentTree T index (some (.branch l cs)) = .ok m →
      ∀ k ∈ Node.labelsAll m.children, ∀ t, k.openText? = some t →
        ∃ k', splitText T (k.placement index) t = .ok [.leaf k'] ∧ k'.type = Label.textType ∧
          k'.value = some t := by
  have hends : (Walk.start (.branch l cs)).Ends T index _ := Walk.ends_start l cs
  have hexpand : segmentTree T index (some (.branch l cs)) =
      (Node.branch l cs).expandBelow T index false :=
    Node.segment_eq_expandBelow _
  refine ⟨fun r => ⟨fun h => h.unique hends, fun h => h ▸ hends⟩, hexpand, fun hplaceable => ?_,
    fun m hm k hk t ht => ?_⟩
  · have hall : ∃ cs', Node.expandAll T index false cs = .ok cs' :=
      Node.exists_expandAll cs hplaceable
    rcases hall with ⟨cs', hcs⟩
    exact ⟨cs', by rw [hexpand, Node.expandBelow, hcs]; rfl⟩
  · rcases Node.exists_segmentAll_of_segmentTree hm with ⟨_, _, cs', hroot, rfl, hcs⟩
    cases hroot
    exact (Node.stays_of_segmentAll hcs (fun c hc => hleaves.of_mem hc) k hk).exists_leaf ht

theorem segmentTree_expands_nestedParagraph : nestedParagraph.TextsAreLeaves ∧
    ∃ l cs, nestedParagraph = .branch l cs ∧
      (∀ r, (Walk.start nestedParagraph).Ends .standard none r ↔
        r = (segmentTree .standard none (some nestedParagraph)).map fun m =>
          (m, nestedParagraph.splitCount .standard)) ∧
      segmentTree .standard none (some nestedParagraph) =
        nestedParagraph.expandBelow .standard none false ∧
      ∃ cs', segmentTree .standard none (some nestedParagraph) = .ok (.branch l cs') ∧
        ∀ k ∈ Node.labelsAll cs', ∀ t, k.openText? = some t →
          ∃ k', splitText .standard (k.placement none) t = .ok [.leaf k'] ∧
            k'.type = Label.textType ∧ k'.value = some t := by
  have hleaves : nestedParagraph.TextsAreLeaves := by
    unfold Node.TextsAreLeaves
    decide
  rcases segmentTree_expands .standard none hleaves with
    ⟨hends, hexpand, hexists, hleft⟩
  have hplaceable : ∀ k ∈ Node.labelsAll nestedParagraph.children, k.Placeable := by
    intro k hk t m _ hm
    have hplain : k.data = [] := by
      revert k
      simp [nestedParagraph, Node.children, Node.leaf, Node.labels, Node.labelsAll]
    rw [hplain] at hm
    cases hm
  rcases hexists hplaceable with ⟨cs', hcs⟩
  exact ⟨hleaves, _, _, rfl, hends, hexpand, cs', hcs, hleft _ hcs⟩

/-- A document with one text that says where it stands, and holds no construct. -/
def placedText : Node :=
  .branch { type := "root" } [.leaf {
    type := Label.textType
    value := some "plain"
    position := some ⟨⟨1, 1, 0⟩, ⟨1, 6, 5⟩⟩ }]

/-- Were each text built anew, a text that stays would lose its position where the source is not
known. -/
theorem segmentTree_ne_rebuilt : placedText.TextsAreLeaves ∧
    segmentTree .standard none (some placedText) ≠ placedText.expandBelow .standard none true := by
  constructor
  · unfold Node.TextsAreLeaves
    decide
  · intro heq
    have hpositions := congrArg
      (fun r => r.toOption.map fun m : Node => m.labels.map Label.position) heq
    revert hpositions
    decide +kernel

end LiquidMarkdown
