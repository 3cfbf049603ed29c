import LiquidMarkdown.Proofs.Document.Blocks
import LiquidMarkdown.Proofs.Document.Failure
import LiquidMarkdown.Proofs.Document.Stability

/-!
# Splitting a tree in place

A tree can be split in place by a loop: the lists of children are changed while they are gone
through, and the nodes whose children are still to be visited wait on a stack.  The loop comes to an
end, and to the same tree as the recursion.  This file defines:

* `Node.at?`, `Node.putAt` — the node at a place of the tree, and the tree with another one there;
* `visit` — the loop over the children of one node;
* `Walk`, `Walk.step` — the loop over the nodes that wait;
* `Walk.Ends` — the loop ends with a result, `Walk.Ends.unique`;
* `splice`, `visit_eq` — what the inner loop does to the children, as a recursion over them;
* `segmentAll_eq_splice` — splitting is to splice the children, and then to go on below them;
* `ends_start` — the loop ends, with the split tree and the number of texts that gave way.
-/

namespace LiquidMarkdown

/-! ## Places -/

/-- A place in a tree: which child to take at each node on the way from the root. -/
abbrev Path := List Nat

namespace Node

/-- The node at a place. -/
def at? : Node → Path → Option Node
  | n, [] => some n
  | n, i :: p => n.children[i]?.bind fun c => at? c p

/-- The tree with another node at a place. -/
def putAt : Node → Path → Node → Node
  | _, [], new => new
  | branch l cs, i :: p, new => branch l (cs.modify i fun c => putAt c p new)
  | stub l, _ :: _, _ => stub l

variable {n x y z : Node} {l : Label} {p : Path}

theorem exists_of_at?_cons {i : Nat} (h : n.at? (i :: p) = some x) :
    ∃ l cs c, n = branch l cs ∧ cs[i]? = some c ∧ c.at? p = some x := by
  simp only [at?] at h
  rcases Option.bind_eq_some_iff.1 h with ⟨c, hc, hx⟩
  cases n with
  | branch l cs => exact ⟨l, cs, c, rfl, hc, hx⟩
  | stub l => cases hc

theorem at?_append (h : n.at? p = some x) (q : Path) : n.at? (p ++ q) = x.at? q := by
  induction p generalizing n with
  | nil =>
      cases h
      rfl
  | cons i p ih =>
      rcases exists_of_at?_cons h with ⟨l, cs, c, rfl, hc, hx⟩
      simp only [List.cons_append, at?, children, hc, Option.bind_some]
      exact ih hx

theorem at?_putAt (h : n.at? p = some x) : (n.putAt p y).at? p = some y := by
  induction p generalizing n with
  | nil => rfl
  | cons i p ih =>
      rcases exists_of_at?_cons h with ⟨l, cs, c, rfl, hc, hx⟩
      simp only [putAt, at?, children, List.getElem?_modify_eq, hc]
      exact ih hx

theorem putAt_putAt (n : Node) (p : Path) (y z : Node) : (n.putAt p y).putAt p z = n.putAt p z := by
  induction p generalizing n with
  | nil => rfl
  | cons i p ih =>
      cases n with
      | stub l => rfl
      | branch l cs =>
          simp only [putAt, branch.injEq, true_and, List.modify_modify_eq]
          congr 1
          funext c
          exact ih c

/-- To put a node below the node at a place is to put the whole there. -/
theorem putAt_append (h : n.at? p = some x) (q : Path) (y : Node) :
    n.putAt (p ++ q) y = n.putAt p (x.putAt q y) := by
  induction p generalizing n with
  | nil =>
      cases h
      rfl
  | cons i p ih =>
      rcases exists_of_at?_cons h with ⟨l, cs, c, rfl, hc, hx⟩
      simp only [List.cons_append, putAt, branch.injEq, true_and]
      apply List.ext_getElem?
      intro j
      simp only [List.getElem?_modify]
      by_cases hij : i = j
      · subst hij
        simp only [hc, if_true, Option.map_eq_map, Option.map_some, ih hx]
      · simp [hij]

theorem at?_child (l : Label) (pre post : List Node) (c : Node) :
    (branch l (pre ++ c :: post)).at? [pre.length] = some c := by
  simp [at?, children]

theorem putAt_child (l : Label) (pre post : List Node) (c d : Node) :
    (branch l (pre ++ c :: post)).putAt [pre.length] d = branch l (pre ++ d :: post) := by
  simp only [putAt, branch.injEq, true_and]
  induction pre with
  | nil => rfl
  | cons a pre ih => simpa using ih

end Node

/-! ## The loop over children -/

/-- The children of a node while they are gone through: which is the next one, at which places nodes
were found that have children themselves, and how many texts gave way. -/
structure Visit where
  children : List Node
  place : Nat
  found : List Nat
  replaced : Nat

/-- The places of the nodes that have children, where the first one stands at the given place. -/
def parents : List Node → Nat → List Nat
  | [], _ => []
  | n :: ns, i => (if n.children.isEmpty then [] else [i]) ++ parents ns (i + 1)

/-- The next child stays, and nodes with children were found at the given places. -/
def Visit.keep (v : Visit) (found : List Nat) : Visit :=
  { v with place := v.place + 1, found := v.found ++ found }

/-- Other nodes take the place of the next child, and the loop goes on behind them. -/
def Visit.replace (v : Visit) (split : List Node) : Visit where
  children := v.children.take v.place ++ split ++ v.children.drop (v.place + 1)
  place := v.place + split.length
  found := v.found ++ parents split v.place
  replaced := v.replaced + 1

/-- Go through the children from the next one on. -/
def visit (T : TagTables) (index : Option LineIndex) (v : Visit) : Except DocumentError Visit :=
  match _hc : v.children[v.place]? with
  | none => .ok v
  | some c => match c.label.openText? with
      | none => visit T index (v.keep (parents [c] v.place))
      | some t => match splitText T (c.label.placement index) t with
          | .error e => .error e
          | .ok split =>
              if isUnsplit t split then visit T index (v.keep [])
              else visit T index (v.replace split)
termination_by v.children.length - v.place
decreasing_by
  · have hlt : v.place < v.children.length := (List.getElem?_eq_some_iff.1 _hc).1
    simp only [Visit.keep]
    omega
  · have hlt : v.place < v.children.length := (List.getElem?_eq_some_iff.1 _hc).1
    simp only [Visit.keep]
    omega
  · have hlt : v.place < v.children.length := (List.getElem?_eq_some_iff.1 _hc).1
    simp only [Visit.replace, List.length_append, List.length_take, List.length_drop]
    omega

section

variable {T : TagTables} {index : Option LineIndex} {v : Visit} {c : Node}

theorem visit_end (h : v.children[v.place]? = none) : visit T index v = .ok v := by
  rw [visit]
  split
  · rfl
  · next d hd =>
      rw [h] at hd
      cases hd

theorem visit_closed (hc : v.children[v.place]? = some c) (ho : c.label.openText? = none) :
    visit T index v = visit T index (v.keep (parents [c] v.place)) := by
  rw [visit]
  split
  · next hnone =>
      rw [hc] at hnone
      cases hnone
  · next d hd =>
      cases hc.symm.trans hd
      split
      · rfl
      · next t ht =>
          rw [ho] at ht
          cases ht

theorem visit_open (hc : v.children[v.place]? = some c) {t : Text}
    (ho : c.label.openText? = some t) :
    visit T index v = (do
      let split ← splitText T (c.label.placement index) t
      if isUnsplit t split then visit T index (v.keep [])
      else visit T index (v.replace split)) := by
  rw [visit]
  split
  · next hnone =>
      rw [hc] at hnone
      cases hnone
  · next d hd =>
      cases hc.symm.trans hd
      split
      · next hnone =>
          rw [ho] at hnone
          cases hnone
      · next u hu =>
          cases ho.symm.trans hu
          split
          · next e he =>
              rw [he]
              rfl
          · next split hs =>
              rw [hs]
              rfl

end

/-! ## The loop over nodes -/

/-- A walk under way: the tree as it is now, the places of the nodes whose children are still to be
visited, the last one found first, and how many texts gave way. -/
structure Walk where
  tree : Node
  stack : List Path
  replaced : Nat

namespace Walk

/-- The walk over a whole tree. -/
def start (n : Node) : Walk :=
  ⟨n, [[]], 0⟩

/-- The next node is taken from the stack, its children are visited, and those that have children go
on the stack; nothing is left to do if there is none. -/
def step (T : TagTables) (index : Option LineIndex) (s : Walk) :
    Option (Except DocumentError Walk) :=
  match s.stack with
  | [] => none
  | p :: stack => match s.tree.at? p with
      | some (.branch l cs) => some do
          let v ← visit T index ⟨cs, 0, [], s.replaced⟩
          return ⟨s.tree.putAt p (.branch l v.children),
            v.found.reverse.map (fun i => p ++ [i]) ++ stack, v.replaced⟩
      | _ => some (.ok { s with stack := stack })

/-- The walk comes to an end with a tree and the number of texts that gave way, or with an error. -/
inductive Ends (T : TagTables) (index : Option LineIndex) :
    Walk → Except DocumentError (Node × Nat) → Prop
  | done {s : Walk} : s.step T index = none → Ends T index s (.ok (s.tree, s.replaced))
  | fails {s : Walk} {e : DocumentError} :
      s.step T index = some (.error e) → Ends T index s (.error e)
  | goesOn {s s' : Walk} {r : Except DocumentError (Node × Nat)} :
      s.step T index = some (.ok s') → Ends T index s' r → Ends T index s r

/-- A walk ends in one way at most. -/
theorem Ends.unique {T : TagTables} {index : Option LineIndex} {s : Walk}
    {r r' : Except DocumentError (Node × Nat)} (h : s.Ends T index r) (h' : s.Ends T index r') :
    r = r' := by
  induction h with
  | done hs =>
      cases h' with
      | done _ => rfl
      | fails hs' => cases hs.symm.trans hs'
      | goesOn hs' _ => cases hs.symm.trans hs'
  | fails hs =>
      cases h' with
      | done hs' => cases hs.symm.trans hs'
      | fails hs' =>
          cases hs.symm.trans hs'
          rfl
      | goesOn hs' _ => cases hs.symm.trans hs'
  | goesOn hs _ ih =>
      cases h' with
      | done hs' => cases hs.symm.trans hs'
      | fails hs' => cases hs.symm.trans hs'
      | goesOn hs' hr =>
          cases hs.symm.trans hs'
          exact ih hr

end Walk

/-! ## Splicing -/

section

variable {T : TagTables} {index : Option LineIndex}

/-- The nodes with each text that gives way replaced in place, and the number of these texts. -/
def splice (T : TagTables) (index : Option LineIndex) :
    List Node → Except DocumentError (List Node × Nat)
  | [] => .ok ([], 0)
  | c :: cs => match c.label.openText? with
      | none => do
          let s ← splice T index cs
          return (c :: s.1, s.2)
      | some t => do
          let split ← splitText T (c.label.placement index) t
          let s ← splice T index cs
          return if isUnsplit t split then (c :: s.1, s.2) else (split ++ s.1, s.2 + 1)

theorem splice_closed {c : Node} (ho : c.label.openText? = none) (cs : List Node) :
    splice T index (c :: cs) = splice T index cs >>= fun s => pure (c :: s.1, s.2) := by
  rw [splice, ho]

theorem splice_open {c : Node} {t : Text} (ho : c.label.openText? = some t) (cs : List Node) :
    splice T index (c :: cs) = splitText T (c.label.placement index) t >>= fun split =>
      splice T index cs >>= fun s =>
        pure (if isUnsplit t split then (c :: s.1, s.2) else (split ++ s.1, s.2 + 1)) := by
  rw [splice, ho]

/-- The places of the nodes below which there may be texts to split; there is nothing to do below a
text. -/
def waiting : List Node → Nat → List Nat
  | [], _ => []
  | n :: ns, i =>
      (if n.label.openText?.isSome || n.children.isEmpty then [] else [i]) ++ waiting ns (i + 1)

theorem waiting_append (ns ms : List Node) (i : Nat) :
    waiting (ns ++ ms) i = waiting ns i ++ waiting ms (i + ns.length) := by
  induction ns generalizing i with
  | nil => rfl
  | cons n ns ih =>
      have hlen : i + 1 + ns.length = i + (n :: ns).length := by
        rw [List.length_cons]
        omega
      simp only [List.cons_append, waiting, ih, hlen, List.append_assoc]

/-- A text that was split off has no children. -/
theorem children_of_mem_splitText {p : Placement} {t : Text} {split : List Node}
    (h : splitText T p t = .ok split) {n : Node} (hn : n ∈ split)
    (ho : n.label.openText? ≠ none) : n.children = [] := by
  rcases Node.leaf_or_block_of_mem_splitText h hn with ⟨l, rfl⟩ | ⟨_, _, _, _, _, _, hq⟩
  · rfl
  · rcases Placement.exists_of_node_block hq with ⟨_, _, _, _, _, _, _, _, rfl⟩
    exact absurd (Label.openText?_of_type_ne (by decide : Label.blockType ≠ Label.textType)) ho

theorem waiting_eq_parents {p : Placement} {t : Text} {split : List Node}
    (h : splitText T p t = .ok split) (i : Nat) : waiting split i = parents split i := by
  have hleaf (n : Node) (hn : n ∈ split) (ho : n.label.openText? ≠ none) : n.children = [] :=
    children_of_mem_splitText h hn ho
  clear h
  induction split generalizing i with
  | nil => rfl
  | cons n ns ih =>
      have hrest := ih (i + 1) fun m hm => hleaf m (List.mem_cons_of_mem _ hm)
      simp only [waiting, parents, hrest]
      cases ho : n.label.openText? with
      | none => rfl
      | some u =>
          have hchildren := hleaf n List.mem_cons_self (by simp [ho])
          simp [hchildren]

/-- A visit behind more children that were gone through: what was found among them is found, and
what is spliced from there on is spliced behind them. -/
theorem visit_behind_append (done ms : List Node) (found : List Nat) (k j : Nat)
    (s : List Node × Nat) :
    (⟨(done ++ ms) ++ s.1, ((done ++ ms) ++ s.1).length,
        (found ++ waiting ms done.length) ++ waiting s.1 (done ++ ms).length,
        (k + j) + s.2⟩ : Visit) =
      ⟨done ++ (ms ++ s.1), (done ++ (ms ++ s.1)).length,
        found ++ waiting (ms ++ s.1) done.length, k + (s.2 + j)⟩ := by
  have hlen : (done ++ ms).length = done.length + ms.length := List.length_append
  rw [waiting_append, hlen, List.append_assoc done, List.append_assoc found, Nat.add_assoc k,
    Nat.add_comm j]

/-- The loop goes through the rest of the children as the recursion does. -/
theorem visit_eq (done rest : List Node) (found : List Nat) (k : Nat) :
    visit T index ⟨done ++ rest, done.length, found, k⟩ = do
      let s ← splice T index rest
      return ⟨done ++ s.1, (done ++ s.1).length, found ++ waiting s.1 done.length, k + s.2⟩ := by
  -- The children that were gone through grow by the first of the rest, or by what takes its place.
  induction rest generalizing done found k with
  | nil =>
      rw [visit_end (by simp)]
      simp [splice, waiting, pure, Except.pure, bind, Except.bind]
  | cons c rest ih =>
      have hc : (done ++ c :: rest)[done.length]? = some c := by simp
      have hkeep (more : List Nat) : Visit.keep ⟨done ++ c :: rest, done.length, found, k⟩ more =
          ⟨(done ++ [c]) ++ rest, (done ++ [c]).length, found ++ more, k + 0⟩ := by
        simp [Visit.keep]
      have hreplace (split : List Node) :
          Visit.replace ⟨done ++ c :: rest, done.length, found, k⟩ split =
            ⟨(done ++ split) ++ rest, (done ++ split).length, found ++ parents split done.length,
              k + 1⟩ := by
        simp [Visit.replace]
      cases ho : c.label.openText? with
      | none =>
          have hparents : parents [c] done.length = waiting [c] done.length := by
            simp [parents, waiting, ho]
          rw [visit_closed hc ho, splice_closed ho, hkeep, ih, hparents]
          cases splice T index rest with
          | error e => rfl
          | ok s => exact congrArg Except.ok (visit_behind_append done [c] found k 0 s)
      | some t =>
          rw [visit_open hc ho, splice_open ho]
          cases hs : splitText T (c.label.placement index) t with
          | error e => rfl
          | ok split =>
              simp only [bind, Except.bind, pure, Except.pure]
              cases hu : isUnsplit t split with
              | true =>
                  have hnone : waiting [c] done.length = [] := by simp [waiting, ho]
                  simp only [if_true]
                  rw [hkeep, ih, ← hnone]
                  cases splice T index rest with
                  | error e => rfl
                  | ok s => exact congrArg Except.ok (visit_behind_append done [c] found k 0 s)
              | false =>
                  simp only [Bool.false_eq_true, if_false]
                  rw [hreplace, ih, ← waiting_eq_parents hs]
                  cases splice T index rest with
                  | error e => rfl
                  | ok s => exact congrArg Except.ok (visit_behind_append done split found k 1 s)

/-! ## Splitting by splicing -/

theorem error_of_splice {ns : List Node} {e : DocumentError} (h : splice T index ns = .error e) :
    e = .emptyOffsetMap := by
  induction ns with
  | nil => cases h
  | cons c cs ih =>
      rw [splice] at h
      split at h
      · rcases error_of_bind h with h | ⟨s, _, h⟩
        · exact ih h
        · cases h
      · rcases error_of_bind h with h | ⟨split, _, h⟩
        · exact error_of_splitText h
        · rcases error_of_bind h with h | ⟨s, _, h⟩
          · exact ih h
          · cases h

namespace Node

/-- What is left to do with a node behind splicing: it is split below, unless it is a text. -/
def finish (T : TagTables) (index : Option LineIndex) (n : Node) : Except DocumentError Node :=
  if n.label.openText?.isSome then .ok n else segment T index n

/-- How many texts give way by that. -/
def restCount (T : TagTables) (n : Node) : Nat :=
  if n.label.openText?.isSome then 0 else n.splitCount T

/-- How many texts give way by that below some nodes. -/
def restCountAll (T : TagTables) : List Node → Nat
  | [] => 0
  | n :: ns => n.restCount T + restCountAll T ns

theorem finish_of_open {n : Node} {t : Text} (h : n.label.openText? = some t) :
    n.finish T index = .ok n := by
  simp [finish, h]

theorem finish_of_closed {n : Node} (h : n.label.openText? = none) :
    n.finish T index = n.segment T index := by
  simp [finish, h]

theorem segment_of_childless {n : Node} (h : n.children = []) : n.segment T index = .ok n := by
  cases n with
  | stub l => exact segment_stub l
  | branch l cs =>
      simp only [children] at h
      subst h
      rw [segment_branch, segmentAll_nil]
      rfl

/-- There is nothing to do below a node without children. -/
theorem finish_of_childless {n : Node} (h : n.children = []) : n.finish T index = .ok n := by
  unfold finish
  split
  · rfl
  · exact segment_of_childless h

theorem restCount_of_childless {n : Node} (h : n.children = []) : n.restCount T = 0 := by
  unfold restCount
  split
  · rfl
  · cases n with
    | stub l => rfl
    | branch l cs =>
        simp only [children] at h
        subst h
        rfl

/-- A node that does not wait is done already. -/
theorem done_of_idle {n : Node} (h : (n.label.openText?.isSome || n.children.isEmpty) = true) :
    n.finish T index = .ok n ∧ n.restCount T = 0 := by
  rw [Bool.or_eq_true, List.isEmpty_iff] at h
  rcases h with hopen | hchildren
  · rcases Option.isSome_iff_exists.1 hopen with ⟨t, ht⟩
    exact ⟨finish_of_open ht, by simp [restCount, ht]⟩
  · exact ⟨finish_of_childless hchildren, restCount_of_childless hchildren⟩

theorem error_of_finish {n : Node} {e : DocumentError} (h : n.finish T index = .error e) :
    e = .emptyOffsetMap := by
  unfold finish at h
  split at h
  · cases h
  · exact error_of_segment h

theorem mapM_congr_of_mem {α β : Type} {f g : α → Except DocumentError β} {as : List α}
    (h : ∀ a ∈ as, f a = g a) : as.mapM f = as.mapM g := by
  induction as with
  | nil => rfl
  | cons a as ih =>
      rw [List.mapM_cons, List.mapM_cons, h a List.mem_cons_self,
        ih fun b hb => h b (List.mem_cons_of_mem _ hb)]

/-- What was split off a text is split below, like any other nodes. -/
theorem mapM_finish_of_splitText {p : Placement} {t : Text} {split : List Node}
    (h : splitText T p t = .ok split) :
    split.mapM (finish T index) = split.mapM (segment T index) := by
  refine mapM_congr_of_mem fun n hn => ?_
  cases ho : n.label.openText? with
  | none => exact finish_of_closed ho
  | some u =>
      have hchildren := children_of_mem_splitText h hn (by simp [ho])
      rw [finish_of_childless hchildren, segment_of_childless hchildren]

/-- Splitting is to splice the children, and then to go on below them. -/
theorem segmentAll_eq_splice (ns : List Node) :
    segmentAll T index ns = splice T index ns >>= fun s => s.1.mapM (finish T index) := by
  -- The recursion goes on below a node before it splices the next; both orders come to the same.
  induction ns with
  | nil =>
      rw [segmentAll_nil]
      rfl
  | cons c cs ih =>
      have hcomm (as : List Node) (f : Node → Except DocumentError Node)
          (hf : ∀ a e, f a = .error e → e = .emptyOffsetMap) :
          (as.mapM f >>= fun first => splice T index cs >>= fun s => s.1.mapM (finish T index) >>=
              fun rest => pure (first ++ rest)) =
            splice T index cs >>= fun s => as.mapM f >>= fun first =>
              s.1.mapM (finish T index) >>= fun rest => pure (first ++ rest) := by
        refine bind_comm_of_error ?_ (fun e he => error_of_splice he) _
        intro e he
        rcases error_of_mapM he with ⟨a, _, ha⟩
        exact hf a e ha
      cases ho : c.label.openText? with
      | none =>
          have hfinish := hcomm [c] (finish T index) fun a e he => error_of_finish he
          simp only [List.mapM_cons, List.mapM_nil, bind_assoc, pure_bind,
            List.singleton_append] at hfinish
          rw [segmentAll_cons_closed ho, splice_closed ho, ih, ← finish_of_closed ho]
          simp only [bind_assoc, pure_bind, List.mapM_cons]
          exact hfinish
      | some t =>
          have hok {α β : Type} (a : α) (f : α → Except DocumentError β) : .ok a >>= f = f a := rfl
          rw [segmentAll_cons_open ho, splice_open ho, ih]
          cases hs : splitText T (c.label.placement index) t with
          | error e => rfl
          | ok split =>
              cases hu : isUnsplit t split with
              | true =>
                  simp only [replacement, hu, if_true, hok, bind_assoc, pure_bind, List.mapM_cons,
                    finish_of_open ho, List.singleton_append]
              | false =>
                  have hsplit := hcomm split (segment T index) fun a e he => error_of_segment he
                  simp only [replacement, hu, Bool.false_eq_true, if_false, hok, bind_assoc,
                    pure_bind, List.mapM_append, mapM_finish_of_splitText hs]
                  exact hsplit

/-! ## Counting -/

theorem splitCountAll_append (ns ms : List Node) :
    splitCountAll T (ns ++ ms) = splitCountAll T ns + splitCountAll T ms := by
  induction ns with
  | nil => simp [splitCountAll]
  | cons n ns ih => simp only [List.cons_append, splitCountAll, ih, Nat.add_assoc]

theorem restCountAll_append (ns ms : List Node) :
    restCountAll T (ns ++ ms) = restCountAll T ns + restCountAll T ms := by
  induction ns with
  | nil => simp [restCountAll]
  | cons n ns ih => simp only [List.cons_append, restCountAll, ih, Nat.add_assoc]

/-- Below the node of a piece, the body of a block gives way, unless it is literal text. -/
theorem restCount_of_node {p : Placement} {start : Nat} {q : Piece} {n : Node}
    (h : p.node start q = .ok n) (k : Nat) :
    n.restCount T + k =
      ((openBodies [q]).map (LiquidMarkdown.splitCount T)).foldr (· + ·) k := by
  have hleaf (l : Label) : (leaf l).restCount T + k = k := by
    rw [restCount_of_childless rfl, Nat.zero_add]
  cases q with
  | text u =>
      rcases Placement.exists_of_node_text h with ⟨l, _, rfl⟩
      exact hleaf l
  | expression raw =>
      rcases Placement.exists_of_node_expression h with ⟨position, _, rfl⟩
      exact hleaf _
  | tag raw =>
      rcases Placement.exists_of_node_tag h with ⟨position, _, rfl⟩
      exact hleaf _
  | block opening body closing isVerbatim =>
      rcases Placement.exists_of_node_block h with
        ⟨position, _, inner, _, _, _, hi, _, rfl⟩
      have hclosed : (Label.block (opening ++ body ++ closing) position).openText? = none :=
        Label.openText?_of_type_ne (by decide : Label.blockType ≠ Label.textType)
      -- The tags around the body count for nothing.
      have htag (raw : Text) (q : Option Position) : splitCountAll T [leaf (.tag raw q)] = 0 := by
        simp [splitCountAll, leaf, label, Label.openText?_tag, splitCount]
      have hcount : restCount T (branch (Label.block (opening ++ body ++ closing) position)
          ([leaf (.tag opening ‹_›)] ++ (inner ++ [leaf (.tag closing ‹_›)]))) =
            splitCountAll T inner := by
        simp only [restCount, label, hclosed, Option.isSome_none, Bool.false_eq_true, if_false,
          splitCount, splitCountAll_append, htag, Nat.zero_add, Nat.add_zero]
      refine (congrArg (· + k) hcount).trans ?_
      rcases Placement.exists_of_bodyNodes hi with ⟨rfl, rfl⟩ | ⟨hbody, l, hl, rfl⟩
      · cases isVerbatim with
        | true => simp [openBodies, splitCountAll]
        | false => simp [openBodies, splitCountAll, LiquidMarkdown.splitCount]
      · cases isVerbatim with
        | true =>
            have hput := l.openText?_put_verbatim
            simp [openBodies, splitCountAll, leaf, label, hput, splitCount]
        | false =>
            have hopen := (Label.openText?_of_textLabel hl hbody).1
            simp [openBodies, splitCountAll, leaf, label, hopen]

theorem restCountAll_of_nodes {p : Placement} {start : Nat} {qs : List Piece} {ns : List Node}
    (h : p.nodes start qs = .ok ns) :
    restCountAll T ns = ((openBodies qs).map (LiquidMarkdown.splitCount T)).foldr (· + ·) 0 := by
  induction qs generalizing start ns with
  | nil =>
      cases h
      rfl
  | cons q qs ih =>
      rcases Placement.exists_of_nodes_cons h with ⟨n, rest, hn, hr, rfl⟩
      have hbodies : openBodies (q :: qs) = openBodies [q] ++ openBodies qs := by
        rw [openBodies, openBodies, openBodies, ← List.filterMap_append]
        rfl
      rw [restCountAll, ih hr, restCount_of_node hn, hbodies, List.map_append, List.foldr_append]

/-- A text that gives way counts as one, and then what was split off it counts. -/
theorem splitCount_of_splitText {p : Placement} {t : Text} {split : List Node} (ht : t ≠ [])
    (h : splitText T p t = .ok split) (hu : isUnsplit t split = false) :
    LiquidMarkdown.splitCount T t = 1 + restCountAll T split := by
  have hstays : staysText T t = false := by
    rw [staysText, beq_eq_false_iff_ne]
    intro hp
    rw [(isUnsplit_iff_pieces ht h).2 hp] at hu
    cases hu
  rw [splitText, if_neg ht] at h
  rw [LiquidMarkdown.splitCount, if_neg (by simp [ht, hstays]), restCountAll_of_nodes h]
  simp

/-- The texts that give way are those that are spliced, and those below. -/
theorem splitCountAll_eq_splice {ns : List Node} {s : List Node × Nat}
    (h : splice T index ns = .ok s) :
    splitCountAll T ns = s.2 + restCountAll T s.1 := by
  induction ns generalizing s with
  | nil =>
      cases h
      rfl
  | cons c cs ih =>
      rw [splice] at h
      rw [splitCountAll]
      split at h
      · next ho =>
          rcases exists_ok_of_bind h with ⟨s', hs', h⟩
          cases h
          have hcount : c.restCount T = c.splitCount T := by simp [restCount, ho]
          simp only [ho, ih hs', restCountAll, hcount]
          omega
      · next t ho =>
          have ht := (Label.eq_of_openText? ho).2.2
          rcases exists_ok_of_bind h with ⟨split, hs, h⟩
          rcases exists_ok_of_bind h with ⟨s', hs', h⟩
          cases h
          simp only [ho, ih hs']
          cases hu : isUnsplit t split with
          | true =>
              have hpieces := (isUnsplit_iff_pieces ht hs).1 hu
              have hcount : c.restCount T = 0 := by simp [restCount, ho]
              simp [LiquidMarkdown.splitCount, staysText, hpieces, restCountAll, hcount]
          | false =>
              -- The text counts once, and then what it gave way to counts.
              rw [splitCount_of_splitText ht hs hu]
              simp only [Bool.false_eq_true, if_false, restCountAll_append]
              omega

/-- What waits holds less text to split than the whole. -/
theorem unsplitBelow_lt_of_mem_splice {ns : List Node} {s : List Node × Nat}
    (h : splice T index ns = .ok s) {n : Node} (hn : n ∈ s.1) :
    n.unsplitBelow < unsplitSizeAll ns := by
  induction ns generalizing s with
  | nil =>
      cases h
      cases hn
  | cons c cs ih =>
      have hbelow := c.unsplitBelow_lt
      -- A node that is left is the first one, or comes from splitting it, or is one of the rest.
      have hfirst (m : Node) (hm : m = c) : m.unsplitBelow < unsplitSizeAll (c :: cs) := by
        subst hm
        simp only [unsplitSizeAll]
        omega
      have hrest (s' : List Node × Nat) (hs' : splice T index cs = .ok s') (hm : n ∈ s'.1) :
          n.unsplitBelow < unsplitSizeAll (c :: cs) := by
        have hlt := ih hs' hm
        simp only [unsplitSizeAll]
        omega
      rw [splice] at h
      split at h
      · rcases exists_ok_of_bind h with ⟨s', hs', h⟩
        cases h
        rcases List.mem_cons.1 hn with hn | hn
        · exact hfirst n hn
        · exact hrest s' hs' hn
      · next t ho =>
          rcases exists_ok_of_bind h with ⟨split, hs, h⟩
          rcases exists_ok_of_bind h with ⟨s', hs', h⟩
          cases h
          cases hu : isUnsplit t split with
          | true =>
              simp only [hu, if_true] at hn
              rcases List.mem_cons.1 hn with hn | hn
              · exact hfirst n hn
              · exact hrest s' hs' hn
          | false =>
              simp only [hu, Bool.false_eq_true, if_false] at hn
              rcases List.mem_append.1 hn with hn | hn
              · have hle := unsplitBelow_le_of_mem hs hn
                simp only [ho, Option.getD_some] at hbelow
                simp only [unsplitSizeAll]
                omega
              · exact hrest s' hs' hn

end Node

/-! ## The walk -/

namespace Walk

open Node

/-- A node at the top of the stack is split as a whole, and then the walk goes on. -/
def Splits (T : TagTables) (index : Option LineIndex) (n : Node) : Prop :=
  ∀ tree p stack k r, tree.at? p = some n →
    (∀ n', n.segment T index = .ok n' →
      Ends T index ⟨tree.putAt p n', stack, k + n.splitCount T⟩ r) →
    (∀ e, n.segment T index = .error e → r = .error e) → Ends T index ⟨tree, p :: stack, k⟩ r

/-- Nodes that wait at the top of the stack are split one after another. -/
theorem ends_waiting {tree x : Node} {p : Path} (hp : tree.at? p = some x) (l : Label)
    (pre ns post : List Node) (stack : List Path) (k : Nat) {r : Except DocumentError (Node × Nat)}
    (hsplits : ∀ n ∈ ns, n.label.openText? = none → n.children ≠ [] → Splits T index n)
    (hok : ∀ ns', ns.mapM (finish T index) = .ok ns' →
      Ends T index ⟨tree.putAt p (branch l (pre ++ ns' ++ post)), stack,
        k + restCountAll T ns⟩ r)
    (herror : ∀ e, ns.mapM (finish T index) = .error e → r = .error e) :
    Ends T index ⟨tree.putAt p (branch l (pre ++ ns ++ post)),
      (waiting ns pre.length).reverse.map (fun i => p ++ [i]) ++ stack, k⟩ r := by
  induction ns generalizing pre stack k with
  | nil => exact hok [] rfl
  | cons n ns ih =>
      have hsplitsRest (m : Node) (hm : m ∈ ns) : m.label.openText? = none → m.children ≠ [] →
          Splits T index m :=
        hsplits m (List.mem_cons_of_mem _ hm)
      have hpre : pre ++ n :: ns ++ post = (pre ++ [n]) ++ ns ++ post := by simp
      have hlen : pre.length + 1 = (pre ++ [n]).length := by simp
      -- The last nodes come first, and the first one is next.
      rw [hpre, waiting, hlen, List.reverse_append, List.map_append,
        List.append_assoc (List.map _ _)]
      refine ih _ _ _ hsplitsRest (fun ns' hns' => ?_) fun e he => ?_
      · have hpre' (m : Node) : pre ++ [m] ++ ns' ++ post = pre ++ m :: (ns' ++ post) := by simp
        have hcount : k + restCountAll T ns + n.restCount T =
            k + restCountAll T (n :: ns) := by
          rw [restCountAll]
          omega
        have hmapM (n' : Node) (hn' : n.finish T index = .ok n') :
            (n :: ns).mapM (finish T index) = .ok (n' :: ns') := by
          rw [List.mapM_cons, hn', hns']
          rfl
        split
        · next hidle =>
            have hdone : n.finish T index = .ok n ∧ n.restCount T = 0 := done_of_idle hidle
            have hends := hok _ (hmapM n hdone.1)
            rw [← hcount, hdone.2] at hends
            simpa using hends
        · next hwaits =>
            rw [Bool.or_eq_true, not_or, Bool.not_eq_true, Option.isSome_eq_false_iff,
              Option.isNone_iff_eq_none, List.isEmpty_iff] at hwaits
            have hclosed := hwaits.1
            have hfinish : n.finish T index = n.segment T index := finish_of_closed hclosed
            have hrest : n.restCount T = n.splitCount T := by simp [restCount, hclosed]
            have hat : (tree.putAt p (branch l (pre ++ [n] ++ ns' ++ post))).at?
                (p ++ [pre.length]) = some n := by
              rw [at?_append (at?_putAt hp), hpre', at?_child]
            refine hsplits n List.mem_cons_self hclosed hwaits.2 _ _ _ _ _ hat (fun n' hn' => ?_)
              fun e he => ?_
            · rw [putAt_append (at?_putAt hp), putAt_putAt, hpre', putAt_child, ← hrest, hcount]
              have hends := hok _ (hmapM n' (hfinish.trans hn'))
              simpa using hends
            · refine herror e ?_
              rw [List.mapM_cons, hfinish, he]
              rfl
      · -- Whichever of the nodes fails, it fails for the same reason.
        have hreason : e = .emptyOffsetMap := by
          rcases error_of_mapM he with ⟨m, _, hm⟩
          exact error_of_finish hm
        cases hn : n.finish T index with
        | error e' =>
            rw [hreason, ← error_of_finish hn]
            refine herror e' ?_
            rw [List.mapM_cons, hn]
            rfl
        | ok n' =>
            refine herror e ?_
            rw [List.mapM_cons, hn, he]
            rfl

/-- Every node with a list of children is split as a whole. -/
theorem splits (l : Label) (cs : List Node) : Splits T index (branch l cs) := by
  generalize hsize : unsplitSizeAll cs = size
  induction size using Nat.strongRecOn generalizing l cs with
  | ind size ih =>
    intro tree p stack k r hp hok herror
    -- The children are gone through first, and then what waits among them, each as a whole.
    have hvisit : visit T index ⟨cs, 0, [], k⟩ = splice T index cs >>= fun s =>
        pure ⟨s.1, s.1.length, waiting s.1 0, k + s.2⟩ :=
      visit_eq [] cs [] k
    have hstep :
        step T index ⟨tree, p :: stack, k⟩ = some (visit T index ⟨cs, 0, [], k⟩ >>= fun v =>
        pure ⟨tree.putAt p (branch l v.children),
          v.found.reverse.map (fun i => p ++ [i]) ++ stack, v.replaced⟩) := by
      simp only [step, hp]
    rw [segment_branch, segmentAll_eq_splice] at hok herror
    rw [hvisit] at hstep
    cases hs : splice T index cs with
    | error e =>
        rw [hs] at hstep herror
        rw [herror e rfl]
        exact .fails hstep
    | ok s =>
        rw [hs] at hstep hok herror
        refine .goesOn hstep ?_
        suffices hends : Ends T index ⟨tree.putAt p (branch l ([] ++ s.1 ++ [])),
            (waiting s.1 0).reverse.map (fun i => p ++ [i]) ++ stack, k + s.2⟩ r by
          simpa using hends
        refine ends_waiting hp l [] s.1 [] stack (k + s.2) ?_ ?_ ?_
        · intro n hn _ hchildren
          cases n with
          | stub l' => exact absurd rfl hchildren
          | branch l' cs' =>
              have hlt := unsplitBelow_lt_of_mem_splice hs hn
              exact ih _ (hsize ▸ hlt) l' cs' rfl
        · intro ns' hns'
          have hcount : k + s.2 + restCountAll T s.1 = k + (branch l cs).splitCount T := by
            rw [show (branch l cs).splitCount T = splitCountAll T cs from rfl,
              splitCountAll_eq_splice hs, Nat.add_assoc]
          rw [hcount]
          simpa using hok (branch l ns') (by simp [hns', bind, Except.bind, pure, Except.pure])
        · intro e he
          exact herror e (by simp [he, bind, Except.bind])

/-- The walk over a tree ends with the split tree and the number of texts that gave way. -/
theorem ends_start (l : Label) (cs : List Node) :
    (start (branch l cs)).Ends T index (((branch l cs).segment T index).map fun n =>
      (n, (branch l cs).splitCount T)) := by
  refine splits l cs (branch l cs) [] [] 0 _ rfl (fun n' hn' => ?_) fun e he => ?_
  · rw [hn', Nat.zero_add]
    exact .done rfl
  · rw [he]
    rfl

end Walk

end
end LiquidMarkdown
