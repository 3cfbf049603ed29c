import LiquidMarkdown.Proofs.Annotation.Bare
import LiquidMarkdown.Proofs.Document.Framing
import LiquidMarkdown.Proofs.Pairing.Outcome

/-!
# Blocks take over the outcome of their tags

Settling goes through the tree once and changes nothing but blocks.  This file states:

* `Node.Flanked.tags_eq` — a block has its opening tag, the tags of its body, and its closing tag;
* `Node.Framed.of_bare` — annotating leaves the tags around a block where they are;
* `isSuccess_settle_iff`, `decided_settle` — a block was read if its tags were, and has failed else;
* `Node.exists_settle_eq_of_mem` — every block of a settled tree has the outcome of its tags;
* `exists_framed_of_annotate` — every block of an annotated document has its tags around it.
-/

namespace LiquidMarkdown

/-! ## Tags around a block -/

theorem Kind.exists_of_isBlock {k : Kind} (h : k.isBlock = true) : ∃ name c, k = .block name c := by
  cases k with
  | block name c => exact ⟨name, c, rfl⟩
  | plain | expression _ | tag _ => cases h

theorem Kind.isBlock_bare (k : Kind) : k.bare.isBlock = k.isBlock := by
  cases k with
  | plain | expression _ | tag _ | block _ _ => rfl

namespace Label

theorem exists_tag_of_bare {l l' : Label} {t : Tag} (h : l'.bare = l.bare) (hl : l.kind = .tag t) :
    ∃ t', l'.kind = .tag t' ∧ t'.raw = t.raw := by
  have hkind := (eq_of_bare h).2.2.2.2
  rw [hl] at hkind
  cases hk : l'.kind with
  | tag u =>
      rw [hk] at hkind
      exact ⟨u, rfl, by simpa [Kind.bare] using hkind⟩
  | plain | expression _ | block _ _ =>
      rw [hk] at hkind
      cases hkind

theorem Literal.of_bare {l l' : Label} (h : l'.bare = l.bare) (hl : l.Literal) : l'.Literal := by
  rcases eq_of_bare h with ⟨htype, _, _, hdata, hkind⟩
  refine ⟨htype.trans hl.type, ?_, hdata ▸ hl.flag⟩
  rw [hl.kind] at hkind
  cases hk : l'.kind with
  | plain => rfl
  | expression _ | tag _ | block _ _ =>
      rw [hk] at hkind
      cases hkind

end Label

namespace Node

/-- A node that is written like one without children is one. -/
theorem exists_leaf_of_bare {n : Node} {l : Label}
    (h : n.map Label.bare = (leaf l).map Label.bare) :
    ∃ l', n = leaf l' ∧ l'.bare = l.bare := by
  cases n with
  | stub k => cases h
  | branch k cs =>
      simp only [leaf, map, mapAll, Node.branch.injEq] at h
      rcases h with ⟨hlabel, hnil⟩
      rw [mapAll_eq_map] at hnil
      have hcs : cs = [] := List.map_eq_nil_iff.1 hnil
      subst hcs
      exact ⟨k, rfl, hlabel⟩

variable {b b₀ : Node} {opening closing : Tag} {inner : List Node}

/-- A node that is written like one with a tag at both ends has a tag at both ends. -/
theorem Flanked.of_bare (h : b₀.Flanked opening closing inner)
    (hb : b.map Label.bare = b₀.map Label.bare) :
    ∃ opening' closing' inner', b.Flanked opening' closing' inner' ∧ opening'.raw = opening.raw ∧
      closing'.raw = closing.raw ∧ mapAll Label.bare inner' = mapAll Label.bare inner := by
  rcases h with ⟨first, last, hchildren, hfirst, hlast⟩
  have hmap := congrArg children hb
  rw [children_map, children_map, hchildren, mapAll_eq_map, mapAll_eq_map, List.map_cons,
    List.map_append, List.map_singleton] at hmap
  -- The children fall into the two tags and what stands between them, as those of the other node
  -- do.
  rcases List.map_eq_cons_iff.1 hmap with ⟨c, rest, hc, hcbare, hrest⟩
  rcases List.map_eq_append_iff.1 hrest with ⟨inner', lasts, rfl, hinner, hlasts⟩
  rcases List.map_eq_singleton_iff.1 hlasts with ⟨d, rfl, hdbare⟩
  rcases exists_leaf_of_bare hcbare with ⟨first', rfl, hfbare⟩
  rcases exists_leaf_of_bare hdbare with ⟨last', rfl, hlbare⟩
  rcases Label.exists_tag_of_bare hfbare hfirst with ⟨opening', hfirst', hopening⟩
  rcases Label.exists_tag_of_bare hlbare hlast with ⟨closing', hlast', hclosing⟩
  rw [← mapAll_eq_map, ← mapAll_eq_map] at hinner
  exact ⟨opening', closing', inner', ⟨first', last', hc, hfirst', hlast'⟩, hopening, hclosing,
    hinner⟩

/-- A block that is written like one whose tags are tied has tied tags. -/
theorem Tied.of_bare {T : TagTables} (h : b₀.Tied T opening closing inner)
    (hb : b.map Label.bare = b₀.map Label.bare) :
    ∃ opening' closing' inner', b.Tied T opening' closing' inner' ∧ opening'.raw = opening.raw ∧
      mapAll Label.bare inner' = mapAll Label.bare inner := by
  rcases h.flanked.of_bare hb with
    ⟨opening', closing', inner', hflanked, hopening, hclosing, hinner⟩
  refine ⟨opening', closing', inner', ⟨hflanked, ?_, ?_, ?_, ?_⟩, hopening, hinner⟩
  · rw [hopening]
    exact h.opening_eq
  · rw [hclosing]
    exact h.closing_eq
  · rw [hopening]
    exact h.isBlockStart
  · rw [hopening, hclosing]
    exact h.scannedName_closing

/-- Literal text stays literal text. -/
theorem Framed.of_bare {T : TagTables} (h : b₀.Framed T opening closing inner)
    (hb : b.map Label.bare = b₀.map Label.bare) :
    ∃ opening' closing' inner', b.Framed T opening' closing' inner' := by
  rcases h.toTied.of_bare hb with ⟨opening', closing', inner', htied, hopening, hinner⟩
  refine ⟨opening', closing', inner', htied, ?_⟩
  intro hv
  rw [hopening] at hv
  rw [mapAll_eq_map, mapAll_eq_map] at hinner
  rcases h.literal hv with rfl | ⟨l, rfl, hl⟩
  · exact .inl (List.map_eq_nil_iff.1 hinner)
  · rcases List.map_eq_singleton_iff.1 hinner with ⟨c, rfl, hc⟩
    rcases exists_leaf_of_bare hc with ⟨l', rfl, hbare⟩
    exact .inr ⟨l', rfl, hl.of_bare hbare⟩

/-- A block has its opening tag, the tags of its body, and its closing tag. -/
theorem Flanked.tags_eq (h : b.Flanked opening closing inner) (hb : b.label.kind.isBlock = true) :
    b.tags = opening :: (tagsAll inner ++ [closing]) ∧
      openingTag? b.children = some opening ∧ closingTag? b.children = some closing := by
  rcases h with ⟨first, last, hchildren, hfirst, hlast⟩
  -- A block has no tag of its own.
  have htags : b.tags = tagsAll b.children := by
    cases b with
    | branch l cs =>
        have hnone : l.kind.tag? = none := by
          cases hk : l.kind with
          | block _ _ => rfl
          | plain | expression _ | tag _ =>
              rw [label, hk] at hb
              cases hb
        rw [tags_branch, hnone]
        rfl
    | stub l =>
        rw [children] at hchildren
        cases hchildren
  have hleaf (l : Label) (t : Tag) (hl : l.kind = .tag t) : (leaf l).tags = [t] := by
    rw [leaf, tags_branch, hl]
    rfl
  refine ⟨?_, ?_, ?_⟩
  · rw [htags, hchildren, tagsAll_cons, tagsAll_append, tagsAll_cons, hleaf first opening hfirst,
      hleaf last closing hlast]
    rfl
  · rw [hchildren, openingTag?]
    simp [leaf, label, hfirst, Kind.tag?]
  · have hlast? : (leaf first :: (inner ++ [leaf last])).getLast? = some (leaf last) := by
      rw [← List.cons_append, List.getLast?_concat]
    rw [hchildren]
    cases hinner : inner ++ [leaf last] with
    | nil => simp at hinner
    | cons n ns =>
        rw [hinner] at hlast?
        rw [closingTag?, hlast?]
        simp [leaf, label, hlast, Kind.tag?]

end Node

/-! ## Settling -/

/-- A block was read if its tags were. -/
theorem isSuccess_settle_iff {name : Text} {c : Construct} {opening : Tag} {closing : Option Tag} :
    (settle name c opening closing).isSuccess = true ↔
      opening.isSuccess = true ∧ ∀ t, closing = some t → t.isSuccess = true := by
  unfold settle
  cases hf : (opening :: closing.toList).find? fun t => !t.isSuccess with
  | none =>
      -- No tag has failed.
      have hall := List.find?_eq_none.1 hf
      constructor
      · intro _
        constructor
        · simpa using hall opening List.mem_cons_self
        · intro t ht
          subst ht
          simpa using hall t (List.mem_cons_of_mem _ List.mem_cons_self)
      · intro _
        rfl
  | some u =>
      -- The first tag that has failed gives the block its error.
      have hu := List.find?_some hf
      have hmem := List.mem_of_find?_eq_some hf
      constructor
      · intro hsuccess
        cases hsuccess
      · rintro ⟨hopening, hclosing⟩
        rcases List.mem_cons.1 hmem with rfl | hmem
        · rw [hopening] at hu
          cases hu
        · rw [hclosing u (Option.mem_toList.1 hmem)] at hu
          cases hu

/-- However its tags came out, a block is decided by settling. -/
theorem decided_settle (name : Text) (c : Construct) (opening : Tag) (closing : Option Tag) :
    (settle name c opening closing).Decided := by
  unfold settle
  dsimp only
  split
  · exact Construct.decided_succeed _ _
  · refine Construct.decided_fail _ ?_ _ _
    split
    · exact List.cons_ne_nil _ _
    · exact Text.ofString_ne_nil (by simp)

/-- The first and the last tag of some nodes are read off their labels. -/
theorem openingTag?_closingTag?_congr {ns ms : List Node}
    (h : ms.map (·.label.kind.tag?) = ns.map (·.label.kind.tag?)) :
    openingTag? ms = openingTag? ns ∧ closingTag? ms = closingTag? ns := by
  have hhead := congrArg List.head? h
  have hlast := congrArg List.getLast? h
  have hlength : ms.length = ns.length := by simpa using congrArg List.length h
  rw [List.head?_map, List.head?_map] at hhead
  rw [List.getLast?_map, List.getLast?_map] at hlast
  have hopening : openingTag? ms = openingTag? ns := by
    unfold openingTag?
    cases ms with
    | nil =>
        cases ns with
        | nil => rfl
        | cons n ns => cases hlength
    | cons m ms =>
        cases ns with
        | nil => cases hlength
        | cons n ns => simpa using hhead
  refine ⟨hopening, ?_⟩
  have hbind (ks : List Node) : (ks.getLast?).bind (·.label.kind.tag?) =
      (ks.getLast?.map (·.label.kind.tag?)).join := by
    cases ks.getLast? with
    | none => rfl
    | some k => rfl
  -- A single child is no closing tag, so one child and more of them are told apart.
  match ms, ns, hlength with
  | [], [], _ => rfl
  | [_], [_], _ => rfl
  | m :: m' :: ms, n :: n' :: ns, _ =>
      rw [closingTag?, closingTag?, hbind, hbind, hlast]

/-- A label that is a block behind settling was one before, and has the outcome of its tags. -/
theorem Label.exists_settle_eq {l : Label} {cs : List Node} {name : Text} {c : Construct}
    {opening : Tag} (h : (l.settle cs).kind = .block name c) (ho : openingTag? cs = some opening) :
    ∃ c₀, c = LiquidMarkdown.settle name c₀ opening (closingTag? cs) := by
  unfold Label.settle at h
  rw [ho] at h
  cases hk : l.kind with
  | block name₀ c₀ =>
      rw [hk] at h
      cases h
      exact ⟨c₀, rfl⟩
  | plain | expression _ | tag _ =>
      rw [hk] at h
      simp only [hk] at h
      cases h

namespace Node

/-- Settling leaves the tags among some nodes. -/
theorem map_tag?_settleBlocksAll {ns ms : List Node} (h : settleBlocksAll ns = .ok ms) :
    ms.map (·.label.kind.tag?) = ns.map (·.label.kind.tag?) := by
  induction ns generalizing ms with
  | nil =>
      cases h
      rfl
  | cons n ns ih =>
      rcases settleBlocksAll_cons_eq_ok_iff.1 h with ⟨m, rest, hm, hr, rfl⟩
      have hlabel : m.label.kind.tag? = n.label.kind.tag? := by
        cases n with
        | branch l cs =>
            rcases settleBlocks_branch_eq_ok_iff.1 hm with ⟨cs', _, rfl⟩
            exact tag?_settle l cs
        | stub l =>
            rcases settleBlocks_stub_eq_ok_iff.1 hm with ⟨_, rfl⟩
            rfl
      rw [List.map_cons, List.map_cons, hlabel, ih hr]

mutual

/-- Every block of a settled tree that begins with a tag has the outcome of its tags. -/
theorem exists_settle_eq_of_mem : ∀ (n m : Node), n.settleBlocks = .ok m → ∀ b ∈ m.nodes,
    ∀ name c opening, b.label.kind = .block name c → openingTag? b.children = some opening →
      ∃ c₀, c = settle name c₀ opening (closingTag? b.children)
  | branch l cs, m, h, b, hb, name, c, opening, hk, ho => by
      rcases settleBlocks_branch_eq_ok_iff.1 h with ⟨cs', hcs, rfl⟩
      rcases List.mem_cons.1 hb with rfl | hb
      · -- The root was settled by its children before they were settled, which changed none of
        -- their tags.
        rcases openingTag?_closingTag?_congr (map_tag?_settleBlocksAll hcs) with ⟨hfirst, hlast⟩
        rw [children, hfirst] at ho
        rw [children, hlast]
        exact Label.exists_settle_eq hk ho
      · exact exists_settle_eq_of_memAll cs cs' hcs b hb name c opening hk ho
  | stub l, m, h, b, hb, name, c, opening, hk, ho => by
      rcases settleBlocks_stub_eq_ok_iff.1 h with ⟨_, rfl⟩
      rw [List.mem_singleton.1 hb] at ho
      cases ho

theorem exists_settle_eq_of_memAll : ∀ (ns ms : List Node), settleBlocksAll ns = .ok ms →
    ∀ b ∈ nodesAll ms, ∀ name c opening, b.label.kind = .block name c →
      openingTag? b.children = some opening →
        ∃ c₀, c = settle name c₀ opening (closingTag? b.children)
  | [], ms, h, b, hb, name, c, opening, hk, ho => by
      cases h
      cases hb
  | n :: ns, ms, h, b, hb, name, c, opening, hk, ho => by
      rcases settleBlocksAll_cons_eq_ok_iff.1 h with ⟨m, rest, hm, hr, rfl⟩
      rcases List.mem_append.1 hb with hb | hb
      · exact exists_settle_eq_of_mem n m hm b hb name c opening hk ho
      · exact exists_settle_eq_of_memAll ns rest hr b hb name c opening hk ho

end

end Node

/-- Every block of an annotated document has its tags around it. -/
theorem exists_framed_of_annotate {T : TagTables} {source : Option Text} {n m : Node} (hn : n.Plain)
    (h : annotate T source (some n) = .ok m) : ∀ b ∈ m.nodes, b.label.kind.isBlock = true →
      ∃ opening closing inner, b.Framed T opening closing inner := by
  intro b hb hblock
  rcases exists_segmentTree_of_annotate h with ⟨s, hs, hbare, _⟩
  -- The block was found by splitting, and is still written as it was then.
  rcases Node.exists_mem_nodes_of_map_eq hbare hb with ⟨b₀, hb₀, heq⟩
  have hlabel := congrArg (fun k : Node => k.label.kind.isBlock) heq
  simp only [Node.label_map, Label.bare, Kind.isBlock_bare, hblock] at hlabel
  rcases Node.framed_of_segmentTree hn hs b₀ hb₀ hlabel with ⟨opening, closing, inner, hframed⟩
  exact hframed.of_bare heq.symm

end LiquidMarkdown
