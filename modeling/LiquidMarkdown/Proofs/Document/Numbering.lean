import LiquidMarkdown.Proofs.Document.Tree

/-!
# Nodes and the numbers of their tags

Tags are numbered in document order.  The tags of a node have numbers in a row, which begin with the
number of tags before the node.  This file defines:

* `Node.numbered` — the nodes of a tree, each with the number of tags before it;
* `Node.map_snd_numbered` — these are the nodes in document order;
* `Node.exists_labels_of_mem_numbered`, `Node.exists_of_mem_numbered` — the labels and the tags of a
  tree around those of one of its nodes;
* `Node.exists_mem_numbered_of_tags` — every tag stands at a node of its number;
* `Node.numbered_map` — a map of labels leaves every node its number;
* `Node.between` — the labels between two tags of a tree, `Node.between_of_split`.
-/

namespace LiquidMarkdown
namespace Node

/-! ## Tags among labels -/

/-- The tags among some labels. -/
def tagsOf (ls : List Label) : List Tag :=
  ls.filterMap (·.kind.tag?)

theorem tags_eq_tagsOf (n : Node) : n.tags = tagsOf n.labels :=
  tags_eq_filterMap n

theorem tagsOf_append (as bs : List Label) : tagsOf (as ++ bs) = tagsOf as ++ tagsOf bs :=
  List.filterMap_append

theorem tagsOf_cons (l : Label) (ls : List Label) :
    tagsOf (l :: ls) = l.kind.tag?.toList ++ tagsOf ls := by
  rw [tagsOf, List.filterMap_cons]
  cases l.kind.tag? with
  | none => rfl
  | some t => rfl

/-! ## Numbers of nodes -/

mutual

/-- The nodes of a tree in document order, each with the number of tags before it, where `i` tags
stand before the tree. -/
def numbered (i : TagId) : Node → List (TagId × Node)
  | branch l cs => (i, branch l cs) :: numberedAll (i + l.kind.tag?.toList.length) cs
  | stub l => [(i, stub l)]

def numberedAll (i : TagId) : List Node → List (TagId × Node)
  | [] => []
  | c :: cs => numbered i c ++ numberedAll (i + c.tags.length) cs

end

mutual

theorem map_snd_numbered : ∀ (n : Node) (i : TagId), (n.numbered i).map Prod.snd = n.nodes
  | branch l cs, i => by
      have hcs := map_snd_numberedAll cs (i + l.kind.tag?.toList.length)
      rw [numbered, nodes, List.map_cons, hcs]
  | stub l, i => rfl

theorem map_snd_numberedAll :
    ∀ (ns : List Node) (i : TagId), (numberedAll i ns).map Prod.snd = nodesAll ns
  | [], i => rfl
  | c :: cs, i => by
      have hc := map_snd_numbered c i
      have hcs := map_snd_numberedAll cs (i + c.tags.length)
      rw [numberedAll, nodesAll, List.map_append, hc, hcs]

end

theorem mem_nodes_of_mem_numbered {n b : Node} {i k : TagId} (h : (k, b) ∈ n.numbered i) :
    b ∈ n.nodes := by
  rw [← map_snd_numbered n i]
  exact List.mem_map_of_mem h

theorem mem_numbered_branch {l : Label} {cs : List Node} {b : Node} {i k : TagId} :
    (k, b) ∈ (branch l cs).numbered i ↔
      (k, b) = (i, branch l cs) ∨ (k, b) ∈ numberedAll (i + l.kind.tag?.toList.length) cs :=
  List.mem_cons

theorem mem_numberedAll_cons {c : Node} {cs : List Node} {b : Node} {i k : TagId} :
    (k, b) ∈ numberedAll i (c :: cs) ↔
      (k, b) ∈ c.numbered i ∨ (k, b) ∈ numberedAll (i + c.tags.length) cs :=
  List.mem_append

theorem numberedAll_subset_cons (i : TagId) (c : Node) (cs : List Node) :
    numberedAll (i + c.tags.length) cs ⊆ numberedAll i (c :: cs) :=
  List.subset_append_right _ _

theorem numberedAll_append (as bs : List Node) (i : TagId) :
    numberedAll i (as ++ bs) = numberedAll i as ++ numberedAll (i + (tagsAll as).length) bs := by
  induction as generalizing i with
  | nil => rfl
  | cons a as ih =>
      rw [List.cons_append, numberedAll, numberedAll, ih, tagsAll_cons, List.length_append,
        List.append_assoc, Nat.add_assoc]

/-- The numbers in a row of trees are those in each tree. -/
theorem exists_of_mem_numberedAll {ns : List Node} {b : Node} {i k : TagId}
    (h : (k, b) ∈ numberedAll i ns) :
    ∃ n ∈ ns, ∃ j, (k, b) ∈ n.numbered j ∧ n.numbered j ⊆ numberedAll i ns := by
  induction ns generalizing i with
  | nil => cases h
  | cons c cs ih =>
      rcases mem_numberedAll_cons.1 h with h | h
      · exact ⟨c, List.mem_cons_self, i, h, List.subset_append_left _ _⟩
      · rcases ih h with ⟨n, hn, j, hb, hsub⟩
        exact ⟨n, List.mem_cons_of_mem _ hn, j, hb,
          fun _ he => List.mem_append_right _ (hsub he)⟩

mutual

/-- The labels of a node stand in a row among the labels of the tree, behind as many tags as its
number says. -/
theorem exists_labels_of_mem_numbered : ∀ (n : Node) (i : TagId) {k : TagId} {b : Node},
    (k, b) ∈ n.numbered i → ∃ pre post, n.labels = pre ++ b.labels ++ post ∧
      k = i + (tagsOf pre).length
  | branch l cs, i, k, b, h => by
      rw [numbered] at h
      rcases List.mem_cons.1 h with h | h
      · cases h
        exact ⟨[], [], by simp, rfl⟩
      · -- The label of the root stands before those below it, and may be a tag.
        rcases exists_labels_of_mem_numberedAll cs _ h with ⟨pre, post, hlabels, hk⟩
        refine ⟨l :: pre, post, ?_, ?_⟩
        · rw [labels, hlabels]
          rfl
        · rw [hk, tagsOf_cons, List.length_append, Nat.add_assoc]
  | stub l, i, k, b, h => by
      cases List.mem_singleton.1 h
      exact ⟨[], [], by simp, rfl⟩

theorem exists_labels_of_mem_numberedAll : ∀ (ns : List Node) (i : TagId) {k : TagId} {b : Node},
    (k, b) ∈ numberedAll i ns → ∃ pre post, labelsAll ns = pre ++ b.labels ++ post ∧
      k = i + (tagsOf pre).length
  | [], i, k, b, h => by cases h
  | c :: cs, i, k, b, h => by
      rw [numberedAll] at h
      rcases List.mem_append.1 h with h | h
      · rcases exists_labels_of_mem_numbered c i h with ⟨pre, post, hlabels, hk⟩
        refine ⟨pre, post ++ labelsAll cs, ?_, hk⟩
        rw [labelsAll, hlabels, List.append_assoc]
      · rcases exists_labels_of_mem_numberedAll cs _ h with ⟨pre, post, hlabels, hk⟩
        refine ⟨c.labels ++ pre, post, ?_, ?_⟩
        · rw [labelsAll, hlabels]
          simp
        · rw [hk, tagsOf_append, ← tags_eq_tagsOf, List.length_append, Nat.add_assoc]

end

/-- The tags of a node stand in a row among the tags of the tree, behind those that are before the
node. -/
theorem exists_of_mem_numbered (n : Node) (i : TagId) {k : TagId} {b : Node}
    (h : (k, b) ∈ n.numbered i) :
    ∃ pre post, n.tags = pre ++ b.tags ++ post ∧ k = i + pre.length := by
  rcases exists_labels_of_mem_numbered n i h with ⟨pre, post, hlabels, hk⟩
  refine ⟨tagsOf pre, tagsOf post, ?_, hk⟩
  rw [tags_eq_tagsOf, hlabels, tagsOf_append, tagsOf_append, ← tags_eq_tagsOf]

/-- The tags of a node of a tree are tags of the tree. -/
theorem tags_subset_of_mem_nodes {n b : Node} (h : b ∈ n.nodes) : b.tags ⊆ n.tags := by
  rw [← map_snd_numbered n 0] at h
  rcases List.mem_map.1 h with ⟨⟨k, c⟩, hc, rfl⟩
  rcases exists_of_mem_numbered n 0 hc with ⟨pre, post, htags, _⟩
  rw [htags]
  exact fun t ht => List.mem_append_left _ (List.mem_append_right _ ht)

/-- A label has one tag at most. -/
theorem kind_eq_of_getElem?_toList {l : Label} {k : Nat} {t : Tag}
    (h : l.kind.tag?.toList[k]? = some t) : k = 0 ∧ l.kind = .tag t := by
  cases ht : l.kind.tag? with
  | none =>
      rw [ht] at h
      cases h
  | some u =>
      rw [ht] at h
      cases k with
      | zero =>
          cases h
          exact ⟨rfl, Kind.eq_tag_of_tag? ht⟩
      | succ k => cases h

mutual

/-- Every tag of a tree stands at a node of its number. -/
theorem exists_mem_numbered_of_tags : ∀ (n : Node) (i : TagId) {k : Nat} {t : Tag},
    n.tags[k]? = some t → ∃ c, (i + k, c) ∈ n.numbered i ∧ c.label.kind = .tag t
  | branch l cs, i, k, t, h => by
      rw [tags_branch] at h
      by_cases hk : k < l.kind.tag?.toList.length
      · rw [List.getElem?_append_left hk] at h
        rcases kind_eq_of_getElem?_toList h with ⟨rfl, hkind⟩
        exact ⟨branch l cs, mem_numbered_branch.2 (.inl rfl), hkind⟩
      · rw [List.getElem?_append_right (Nat.le_of_not_lt hk)] at h
        rcases exists_mem_numberedAll_of_tagsAll cs (i + l.kind.tag?.toList.length) h with
          ⟨c, hc, hkind⟩
        rw [Nat.add_assoc, Nat.add_sub_cancel' (Nat.le_of_not_lt hk)] at hc
        exact ⟨c, mem_numbered_branch.2 (.inr hc), hkind⟩
  | stub l, i, k, t, h => by
      rw [tags_stub] at h
      rcases kind_eq_of_getElem?_toList h with ⟨rfl, hkind⟩
      exact ⟨stub l, List.mem_singleton.2 rfl, hkind⟩

theorem exists_mem_numberedAll_of_tagsAll : ∀ (ns : List Node) (i : TagId) {k : Nat} {t : Tag},
    (tagsAll ns)[k]? = some t → ∃ c, (i + k, c) ∈ numberedAll i ns ∧ c.label.kind = .tag t
  | [], i, k, t, h => by cases h
  | c :: cs, i, k, t, h => by
      rw [tagsAll_cons] at h
      by_cases hk : k < c.tags.length
      · rw [List.getElem?_append_left hk] at h
        rcases exists_mem_numbered_of_tags c i h with ⟨b, hb, hkind⟩
        exact ⟨b, mem_numberedAll_cons.2 (.inl hb), hkind⟩
      · rw [List.getElem?_append_right (Nat.le_of_not_lt hk)] at h
        rcases exists_mem_numberedAll_of_tagsAll cs (i + c.tags.length) h with ⟨b, hb, hkind⟩
        rw [Nat.add_assoc, Nat.add_sub_cancel' (Nat.le_of_not_lt hk)] at hb
        exact ⟨b, mem_numberedAll_cons.2 (.inr hb), hkind⟩

end

/-! ## Maps -/

section

variable {f : Label → Label} {g : Tag → Tag}

/-- A map of labels that maps their tags maps the tags of a tree. -/
theorem tags_map (hf : ∀ l, (f l).kind.tag? = l.kind.tag?.map g) (n : Node) :
    (n.map f).tags = n.tags.map g := by
  rw [tags_eq_filterMap, tags_eq_filterMap, labels_map, List.filterMap_map, List.map_filterMap]
  congr 1
  funext l
  exact hf l

mutual

/-- Such a map leaves every node its number. -/
theorem numbered_map (hf : ∀ l, (f l).kind.tag? = l.kind.tag?.map g) :
    ∀ (n : Node) (i : TagId), (n.map f).numbered i = (n.numbered i).map fun e => (e.1, e.2.map f)
  | branch l cs, i => by
      have hlength : (f l).kind.tag?.toList.length = l.kind.tag?.toList.length := by
        rw [hf, Option.toList_map, List.length_map]
      rw [map, numbered, numbered, hlength, numberedAll_mapAll hf cs]
      rfl
  | stub l, i => rfl

theorem numberedAll_mapAll (hf : ∀ l, (f l).kind.tag? = l.kind.tag?.map g) :
    ∀ (ns : List Node) (i : TagId),
      numberedAll i (mapAll f ns) = (numberedAll i ns).map fun e => (e.1, e.2.map f)
  | [], i => rfl
  | c :: cs, i => by
      rw [mapAll, numberedAll, numberedAll, numbered_map hf c, numberedAll_mapAll hf cs,
        tags_map hf, List.length_map, List.map_append]

end

/-- Trees that such a map makes equal have nodes of the same numbers that it makes equal. -/
theorem exists_mem_numbered_of_map_eq (hf : ∀ l, (f l).kind.tag? = l.kind.tag?.map g) {n m : Node}
    (h : m.map f = n.map f) {i k : TagId} {b : Node} (hb : (k, b) ∈ m.numbered i) :
    ∃ b', (k, b') ∈ n.numbered i ∧ b'.map f = b.map f := by
  have hnumbered := congrArg (numbered i) h
  rw [numbered_map hf, numbered_map hf] at hnumbered
  have hmem : (k, b.map f) ∈ (n.numbered i).map fun e => (e.1, e.2.map f) := by
    rw [← hnumbered]
    exact List.mem_map.2 ⟨(k, b), hb, rfl⟩
  rcases List.mem_map.1 hmem with ⟨⟨k', b'⟩, hb', he⟩
  rcases Prod.mk.inj he with ⟨rfl, heq⟩
  exact ⟨b', hb', heq⟩

end

/-! ## Labels between two tags -/

/-- The labels behind the tag with the number `i`. -/
def labelsBehind : TagId → List Label → List Label
  | _, [] => []
  | i, l :: ls =>
      match l.kind.tag?, i with
      | none, i => labelsBehind i ls
      | some _, 0 => ls
      | some _, i + 1 => labelsBehind i ls

/-- The labels before the tag with the number `i`. -/
def labelsBefore : TagId → List Label → List Label
  | _, [] => []
  | i, l :: ls =>
      match l.kind.tag?, i with
      | none, i => l :: labelsBefore i ls
      | some _, 0 => []
      | some _, i + 1 => l :: labelsBefore i ls

/-- The labels of a tree that stand behind the tag `i` and before the tag `j`. -/
def between (n : Node) (i j : TagId) : List Label :=
  labelsBefore (j - i - 1) (labelsBehind i n.labels)

/-- Behind a tag there is what follows it. -/
theorem labelsBehind_of_split {pre post : List Label} {l : Label} {t : Tag}
    (hl : l.kind = .tag t) : labelsBehind (tagsOf pre).length (pre ++ l :: post) = post := by
  induction pre with
  | nil => simp [labelsBehind, tagsOf, hl, Kind.tag?]
  | cons k pre ih =>
      rw [List.cons_append, tagsOf_cons]
      cases hk : k.kind.tag? with
      | none =>
          simp only [labelsBehind, hk, Option.toList_none, List.nil_append]
          exact ih
      | some u =>
          simp only [labelsBehind, hk, Option.toList_some, List.singleton_append, List.length_cons]
          exact ih

/-- Before a tag there is what it follows. -/
theorem labelsBefore_of_split {pre post : List Label} {l : Label} {t : Tag}
    (hl : l.kind = .tag t) : labelsBefore (tagsOf pre).length (pre ++ l :: post) = pre := by
  induction pre with
  | nil => simp [labelsBefore, tagsOf, hl, Kind.tag?]
  | cons k pre ih =>
      rw [List.cons_append, tagsOf_cons]
      cases hk : k.kind.tag? with
      | none =>
          simp only [labelsBefore, hk, Option.toList_none, List.nil_append]
          rw [ih]
      | some u =>
          simp only [labelsBefore, hk, Option.toList_some, List.singleton_append, List.length_cons]
          rw [ih]

/-- Between two tags there is what follows the first one, up to the second one. -/
theorem between_of_split {n : Node} {pre mid post : List Label} {first last : Label}
    {opening closing : Tag} (h : n.labels = pre ++ first :: (mid ++ last :: post))
    (hfirst : first.kind = .tag opening) (hlast : last.kind = .tag closing) :
    n.between (tagsOf pre).length ((tagsOf pre).length + (tagsOf mid).length + 1) = mid := by
  have hcount : (tagsOf pre).length + (tagsOf mid).length + 1 - (tagsOf pre).length - 1 =
      (tagsOf mid).length := by omega
  rw [between, h, labelsBehind_of_split hfirst, hcount, labelsBefore_of_split hlast]

end Node
end LiquidMarkdown
