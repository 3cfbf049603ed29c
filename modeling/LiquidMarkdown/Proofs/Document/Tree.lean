import LiquidMarkdown.Document.Node

/-!
# Laws of document trees

How the readings of a tree go with lists of trees and with maps of labels.  This file states:

* `Node.nodesAll_append`, `Node.labelsAll_append`, `Node.leafTextAll_append` — lists of trees;
* `Node.labels_eq_map_nodes` — the labels of a tree are those of its nodes;
* `Node.mem_labelsAll`, `Node.labelsAll_children_subset` — the labels of some trees and below them;
* `Node.forall_labels_branch` and its like — what holds of all labels, by the shape of the tree;
* `Node.map_map`, `Node.nodes_map`, `Node.leafText_map` — maps of labels;
* `Node.tagsAll` — the tags of some trees, `Node.tags_branch`, `Node.tagsAll_append`.
-/

namespace LiquidMarkdown

theorem Kind.eq_tag_of_tag? {k : Kind} {t : Tag} (h : k.tag? = some t) : k = .tag t := by
  cases k with
  | tag u =>
      cases h
      rfl
  | plain | expression _ | block _ _ => cases h

namespace Node

/-! ## Lists of trees -/

theorem nodesAll_append (as bs : List Node) : nodesAll (as ++ bs) = nodesAll as ++ nodesAll bs := by
  induction as with
  | nil => rfl
  | cons a as ih => rw [List.cons_append, nodesAll, nodesAll, ih, List.append_assoc]

theorem labelsAll_append (as bs : List Node) :
    labelsAll (as ++ bs) = labelsAll as ++ labelsAll bs := by
  induction as with
  | nil => rfl
  | cons a as ih => rw [List.cons_append, labelsAll, labelsAll, ih, List.append_assoc]

theorem leafTextAll_append (as bs : List Node) :
    leafTextAll (as ++ bs) = leafTextAll as ++ leafTextAll bs := by
  induction as with
  | nil => rfl
  | cons a as ih => rw [List.cons_append, leafTextAll, leafTextAll, ih, List.append_assoc]

theorem mem_nodesAll {ns : List Node} {b : Node} : b ∈ nodesAll ns ↔ ∃ n ∈ ns, b ∈ n.nodes := by
  induction ns with
  | nil => simp [nodesAll]
  | cons n ns ih => simp [nodesAll, ih]

/-- A tree is among its nodes. -/
theorem mem_nodes_self (n : Node) : n ∈ n.nodes := by
  cases n with
  | branch l cs => exact List.mem_cons_self
  | stub l => exact List.mem_cons_self

mutual

theorem labels_eq_map_nodes : ∀ n : Node, n.labels = n.nodes.map label
  | branch l cs => by
      simp only [labels, nodes, List.map_cons, label, labelsAll_eq_map_nodesAll cs]
  | stub l => rfl

theorem labelsAll_eq_map_nodesAll : ∀ ns : List Node, labelsAll ns = (nodesAll ns).map label
  | [] => rfl
  | c :: cs => by
      simp only [labelsAll, nodesAll, List.map_append, labels_eq_map_nodes c,
        labelsAll_eq_map_nodesAll cs]

end

/-- The label of each node of a tree is among its labels. -/
theorem label_mem_labels {n b : Node} (h : b ∈ n.nodes) : b.label ∈ n.labels := by
  rw [labels_eq_map_nodes]
  exact List.mem_map_of_mem h

theorem label_mem_labels_self (n : Node) : n.label ∈ n.labels :=
  label_mem_labels (mem_nodes_self n)

theorem mem_labelsAll {ns : List Node} {l : Label} : l ∈ labelsAll ns ↔ ∃ n ∈ ns, l ∈ n.labels := by
  induction ns with
  | nil => simp [labelsAll]
  | cons n ns ih => simp [labelsAll, ih]

/-- The labels below some nodes are among the labels of these nodes. -/
theorem labelsAll_children_subset {ns : List Node} {c : Node} (hc : c ∈ ns) :
    labelsAll c.children ⊆ labelsAll ns := by
  intro l hl
  refine mem_labelsAll.2 ⟨c, hc, ?_⟩
  cases c with
  | branch k cs => exact List.mem_cons_of_mem k hl
  | stub k => cases hl

/-! ## What holds of all labels -/

section

variable {Q : Label → Prop} {l : Label} {n : Node} {as bs cs ns : List Node}

theorem forall_labels_branch :
    (∀ k ∈ (branch l cs).labels, Q k) ↔ Q l ∧ ∀ k ∈ labelsAll cs, Q k :=
  List.forall_mem_cons

theorem forall_labels_leaf : (∀ k ∈ (leaf l).labels, Q k) ↔ Q l :=
  List.forall_mem_singleton

theorem forall_labelsAll_cons :
    (∀ k ∈ labelsAll (n :: ns), Q k) ↔ (∀ k ∈ n.labels, Q k) ∧ ∀ k ∈ labelsAll ns, Q k :=
  List.forall_mem_append

theorem forall_labelsAll_append :
    (∀ k ∈ labelsAll (as ++ bs), Q k) ↔
      (∀ k ∈ labelsAll as, Q k) ∧ ∀ k ∈ labelsAll bs, Q k := by
  rw [labelsAll_append]
  exact List.forall_mem_append

end

/-! ## Maps -/

theorem mapAll_eq_map (f : Label → Label) (ns : List Node) : mapAll f ns = ns.map (map f) := by
  induction ns with
  | nil => rfl
  | cons n ns ih => rw [mapAll, ih, List.map_cons]

@[simp] theorem label_map (f : Label → Label) (n : Node) : (n.map f).label = f n.label := by
  cases n <;> rfl

@[simp] theorem children_map (f : Label → Label) (n : Node) :
    (n.map f).children = mapAll f n.children := by
  cases n <;> rfl

mutual

theorem map_map (f g : Label → Label) : ∀ n : Node, (n.map f).map g = n.map fun l => g (f l)
  | branch l cs => by simp only [map, mapAll_mapAll f g cs]
  | stub l => rfl

theorem mapAll_mapAll (f g : Label → Label) :
    ∀ ns : List Node, mapAll g (mapAll f ns) = mapAll (fun l => g (f l)) ns
  | [] => rfl
  | c :: cs => by simp only [mapAll, map_map f g c, mapAll_mapAll f g cs]

end

mutual

theorem nodes_map (f : Label → Label) : ∀ n : Node, (n.map f).nodes = n.nodes.map (map f)
  | branch l cs => by simp only [map, nodes, List.map_cons, nodesAll_mapAll f cs]
  | stub l => rfl

theorem nodesAll_mapAll (f : Label → Label) :
    ∀ ns : List Node, nodesAll (mapAll f ns) = (nodesAll ns).map (map f)
  | [] => rfl
  | c :: cs => by
      simp only [mapAll, nodesAll, List.map_append, nodes_map f c, nodesAll_mapAll f cs]

end

/-- Trees that a map makes equal have nodes that it makes equal. -/
theorem exists_mem_nodes_of_map_eq {f : Label → Label} {n m : Node} (h : m.map f = n.map f)
    {b : Node} (hb : b ∈ m.nodes) : ∃ b' ∈ n.nodes, b'.map f = b.map f := by
  have hnodes := congrArg nodes h
  rw [nodes_map, nodes_map] at hnodes
  have hmem : b.map f ∈ n.nodes.map (map f) := by
    rw [← hnodes]
    exact List.mem_map_of_mem hb
  rcases List.mem_map.1 hmem with ⟨b', hb', he⟩
  exact ⟨b', hb', he⟩

theorem labels_map (f : Label → Label) (n : Node) : (n.map f).labels = n.labels.map f := by
  rw [labels_eq_map_nodes, labels_eq_map_nodes, nodes_map, List.map_map, List.map_map]
  congr 1
  funext m
  exact label_map f m

theorem labelsAll_mapAll (f : Label → Label) (ns : List Node) :
    labelsAll (mapAll f ns) = (labelsAll ns).map f := by
  rw [labelsAll_eq_map_nodesAll, labelsAll_eq_map_nodesAll, nodesAll_mapAll, List.map_map,
    List.map_map]
  congr 1
  funext m
  exact label_map f m

mutual

/-- A map that keeps the values of labels keeps the text of the leaves. -/
theorem leafText_map {f : Label → Label} (hf : ∀ l, (f l).value = l.value) :
    ∀ n : Node, (n.map f).leafText = n.leafText
  | branch l cs => by
      have hempty : (mapAll f cs).isEmpty = cs.isEmpty := by
        rw [mapAll_eq_map, List.isEmpty_map]
      simp only [map, leafText, hf, leafTextAll_mapAll hf cs, hempty]
  | stub l => by simp only [map, leafText, hf]

theorem leafTextAll_mapAll {f : Label → Label} (hf : ∀ l, (f l).value = l.value) :
    ∀ ns : List Node, leafTextAll (mapAll f ns) = leafTextAll ns
  | [] => rfl
  | c :: cs => by simp only [mapAll, leafTextAll, leafText_map hf c, leafTextAll_mapAll hf cs]

end

/-! ## Tags -/

/-- The tags of some trees in document order. -/
def tagsAll (ns : List Node) : List Tag :=
  (labelsAll ns).filterMap (·.kind.tag?)

theorem tags_eq_filterMap (n : Node) : n.tags = n.labels.filterMap (·.kind.tag?) := by
  simp only [tags, tagLabels, List.map_filterMap]
  congr 1
  funext l
  cases l.kind.tag? <;> rfl

theorem tags_branch (l : Label) (cs : List Node) :
    (branch l cs).tags = l.kind.tag?.toList ++ tagsAll cs := by
  rw [tags_eq_filterMap, labels, List.filterMap_cons]
  cases l.kind.tag? <;> rfl

theorem tags_stub (l : Label) : (stub l).tags = l.kind.tag?.toList := by
  rw [tags_eq_filterMap, labels, List.filterMap_cons]
  cases l.kind.tag? <;> rfl

theorem tagsAll_cons (c : Node) (cs : List Node) : tagsAll (c :: cs) = c.tags ++ tagsAll cs := by
  rw [tagsAll, labelsAll, List.filterMap_append, tags_eq_filterMap]
  rfl

theorem tagsAll_append (as bs : List Node) : tagsAll (as ++ bs) = tagsAll as ++ tagsAll bs := by
  rw [tagsAll, labelsAll_append, List.filterMap_append]
  rfl

end Node
end LiquidMarkdown
