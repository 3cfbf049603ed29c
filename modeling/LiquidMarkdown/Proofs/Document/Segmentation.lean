import LiquidMarkdown.Proofs.Document.Tree
import LiquidMarkdown.Document.Segment
import Mathlib.Data.List.Forall2

/-!
# The recursion of splitting

Splitting a tree visits the nodes that take the place of a text, so its recursion goes by the text
that is left and not by the tree.  This file hides the measure:

* `Placement.exists_of_node_block` and its like — what the node of a piece consists of;
* `Piece.Filled` — the parts of a piece hold some text, `filled_of_mem_pieces`;
* `segmentAll_cons_closed`, `segmentAll_cons_open` — what splitting does with the first of some
  nodes, as equations;
* `segmentAll_induction` — whatever holds of no nodes, and goes on from the rest to the whole in
  each case, holds of all nodes and what they are split into;
* `segmentAll_labels` — what holds of all labels, and goes from a text to what it gives way to;
* `labels_of_splitText` — what holds of the labels that a text gives way to;
* `exists_of_segmentAll_append` — nodes in a row are split one after another;
* `Node.Plain` — a tree without constructs, `forall_labels_of_segmentTree`.
-/

namespace LiquidMarkdown

/-! ## The nodes of pieces -/

namespace Placement

variable {p : Placement} {start : Nat}

theorem exists_of_textLabel {t : Text} {l : Label} (h : p.textLabel start t = .ok l) :
    ∃ position data, p.position start (start + t.length) = .ok position ∧
      p.dataAt start = .ok data ∧
      l = { type := Label.textType, value := some t, position := position, data := data } := by
  rcases exists_ok_of_bind h with ⟨position, hp, h⟩
  rcases exists_ok_of_bind h with ⟨data, hd, h⟩
  cases h
  exact ⟨position, data, hp, hd, rfl⟩

theorem exists_of_tagLabel {raw : Text} {l : Label} (h : p.tagLabel start raw = .ok l) :
    ∃ position, p.position start (start + raw.length) = .ok position ∧
      l = .tag raw position := by
  rcases exists_ok_of_bind h with ⟨position, hp, h⟩
  cases h
  exact ⟨position, hp, rfl⟩

theorem exists_of_bodyNodes {body : Text} {isVerbatim : Bool} {ns : List Node}
    (h : p.bodyNodes start body isVerbatim = .ok ns) :
    body = [] ∧ ns = [] ∨ body ≠ [] ∧ ∃ l, p.textLabel start body = .ok l ∧
      ns = [.leaf (if isVerbatim then
        { l with data := l.data.put Data.verbatimKey (.bool true) } else l)] := by
  simp only [bodyNodes] at h
  split at h
  · next hb =>
      cases h
      exact .inl ⟨hb, rfl⟩
  · next hb =>
      rcases exists_ok_of_bind h with ⟨l, hl, h⟩
      cases h
      exact .inr ⟨hb, l, hl, rfl⟩

theorem exists_of_node_text {t : Text} {n : Node} (h : p.node start (.text t) = .ok n) :
    ∃ l, p.textLabel start t = .ok l ∧ n = .leaf l := by
  rcases exists_ok_of_bind h with ⟨l, hl, h⟩
  cases h
  exact ⟨l, hl, rfl⟩

theorem exists_of_node_expression {raw : Text} {n : Node}
    (h : p.node start (.expression raw) = .ok n) :
    ∃ position, p.position start (start + raw.length) = .ok position ∧
      n = .leaf (.expression raw position) := by
  rcases exists_ok_of_bind h with ⟨position, hp, h⟩
  cases h
  exact ⟨position, hp, rfl⟩

theorem exists_of_node_tag {raw : Text} {n : Node} (h : p.node start (.tag raw) = .ok n) :
    ∃ position, p.position start (start + raw.length) = .ok position ∧
      n = .leaf (.tag raw position) := by
  rcases exists_ok_of_bind h with ⟨l, hl, h⟩
  cases h
  rcases exists_of_tagLabel hl with ⟨position, hp, rfl⟩
  exact ⟨position, hp, rfl⟩

/-- The node of a block holds its opening tag, the nodes of its body, and its closing tag. -/
theorem exists_of_node_block {opening body closing : Text} {isVerbatim : Bool} {n : Node}
    (h : p.node start (.block opening body closing isVerbatim) = .ok n) :
    ∃ position first inner last,
      p.position start (start + (opening ++ body ++ closing).length) = .ok position ∧
      p.position start (start + opening.length) = .ok first ∧
      p.bodyNodes (start + opening.length) body isVerbatim = .ok inner ∧
      p.position (start + opening.length + body.length)
        (start + opening.length + body.length + closing.length) = .ok last ∧
      n = .branch (.block (opening ++ body ++ closing) position)
        (.leaf (.tag opening first) :: (inner ++ [.leaf (.tag closing last)])) := by
  rcases exists_ok_of_bind h with ⟨_, hfirst, h⟩
  rcases exists_ok_of_bind h with ⟨inner, hi, h⟩
  rcases exists_ok_of_bind h with ⟨_, hlast, h⟩
  rcases exists_ok_of_bind h with ⟨position, hp, h⟩
  cases h
  rcases exists_of_tagLabel hfirst with ⟨first, hf, rfl⟩
  rcases exists_of_tagLabel hlast with ⟨last, hl, rfl⟩
  exact ⟨position, first, inner, last, hp, hf, hi, hl, rfl⟩

theorem exists_of_nodes_cons {q : Piece} {qs : List Piece} {ns : List Node}
    (h : p.nodes start (q :: qs) = .ok ns) :
    ∃ n rest, p.node start q = .ok n ∧ p.nodes (start + q.source.length) qs = .ok rest ∧
      ns = n :: rest := by
  rcases exists_ok_of_bind h with ⟨n, hn, h⟩
  rcases exists_ok_of_bind h with ⟨rest, hrest, h⟩
  cases h
  exact ⟨n, rest, hn, hrest, rfl⟩

end Placement

/-- A value that was put under a name stands there. -/
theorem Data.get?_put_self (d : Data) (key : Text) (v : Datum) :
    (d.put key v).get? key = some v := by
  unfold put
  split
  · next h =>
      -- There is such an entry, and every one under the name is replaced.
      induction d with
      | nil => cases h
      | cons f d ih =>
          rcases f with ⟨k, u⟩
          by_cases hk : k = key
          · simp [get?, hk]
          · have hbeq : (key == k) = false := beq_eq_false_iff_ne.2 (Ne.symm hk)
            have hd : (get? d key).isSome = true := by
              simpa [get?, List.lookup_cons, hbeq] using h
            have hrest := ih hd
            simpa [get?, List.lookup_cons, hbeq, hk] using hrest
  · next h =>
      -- There is none, and the new one stands last.
      have hnone : List.lookup key d = none := Option.not_isSome_iff_eq_none.1 h
      simp [get?, List.lookup_append, hnone]

namespace Label

/-- The text that may hold constructs is the value of a text, and is not empty. -/
theorem eq_of_openText? {l : Label} {t : Text} (h : l.openText? = some t) :
    l.type = textType ∧ l.value = some t ∧ t ≠ [] := by
  unfold openText? at h
  split at h
  · next hc =>
      simp only [Bool.and_eq_true, decide_eq_true_eq] at hc
      split at h
      · next c cs hv =>
          cases h
          exact ⟨hc.1, hv, List.cons_ne_nil _ _⟩
      · cases h
  · cases h

theorem openText?_of_type_ne {l : Label} (h : l.type ≠ textType) : l.openText? = none := by
  cases ho : l.openText? with
  | none => rfl
  | some t => exact absurd (eq_of_openText? ho).1 h

theorem openText?_tag (raw : Text) (position : Option Position) :
    (Label.tag raw position).openText? = none := by
  apply openText?_of_type_ne
  change tagType ≠ textType
  decide

/-- Literal text holds no constructs. -/
theorem openText?_put_verbatim (l : Label) :
    ({ l with data := l.data.put Data.verbatimKey (.bool true) } : Label).openText? = none := by
  have hget := Data.get?_put_self l.data Data.verbatimKey (.bool true)
  have hflag : (l.data.put Data.verbatimKey (.bool true)).flag Data.verbatimKey = true := by
    simp [Data.flag, hget, Datum.isTrue]
  simp [openText?, hflag]

end Label

/-! ## Pieces -/

/-- The parts of a piece hold some text, save for the body of a block. -/
def Piece.Filled : Piece → Prop
  | text t => t ≠ []
  | expression raw => raw ≠ []
  | tag raw => raw ≠ []
  | block opening _ closing _ => opening ≠ [] ∧ closing ≠ []

theorem filled_of_mem_textPiece {u : Text} {q : Piece} (h : q ∈ textPiece u) : q.Filled := by
  unfold textPiece at h
  split at h
  · cases h
  · next hu =>
      rw [List.mem_singleton.1 h]
      exact hu

theorem Delimiters.wrap_ne_nil {d : Delimiters} (h : d.opening ≠ []) (content : Text) :
    d.wrap content ≠ [] := by
  simp [wrap, h]

/-- The piece of a construct holds at least its delimiters. -/
theorem filled_of_constructPiece? {T : TagTables} {isTag : Bool} {inside rest : Text} {q : Piece}
    (h : constructPiece? T isTag inside = some (q, rest)) : q.Filled := by
  have htag (content : Text) : Delimiters.tag.wrap content ≠ [] :=
    Delimiters.wrap_ne_nil (List.cons_ne_nil _ _) content
  rcases Option.map_eq_some_iff.1 h with ⟨⟨content, r⟩, _, hq⟩
  cases isTag with
  | true =>
      simp only [if_true, tagPiece] at hq
      split at hq
      · next e _ =>
          cases hq
          exact ⟨htag content, htag e.content⟩
      · cases hq
        exact htag content
  | false =>
      cases hq
      exact Delimiters.wrap_ne_nil (List.cons_ne_nil _ _) content

/-- Every piece of a text is filled. -/
theorem filled_of_mem_pieces {T : TagTables} {t : Text} {q : Piece} (h : q ∈ pieces T t) :
    q.Filled := by
  fun_induction pieces T t with
  | case1 t _ => exact filled_of_mem_textPiece h
  | case2 t before isTag inside _ _ =>
      rcases List.mem_append.1 h with h | h
      · exact filled_of_mem_textPiece h
      · exact filled_of_mem_textPiece h
  | case3 t before isTag inside _ p rest hp ih =>
      rcases List.mem_append.1 h with h | h
      · exact filled_of_mem_textPiece h
      · rcases List.mem_cons.1 h with rfl | h
        · exact filled_of_constructPiece? hp
        · exact ih h

/-- No piece of a text is empty plain text. -/
theorem ne_text_nil_of_mem_pieces {T : TagTables} {t : Text} {q : Piece} (h : q ∈ pieces T t) :
    q ≠ .text [] := by
  rintro rfl
  exact filled_of_mem_pieces h rfl

namespace Node

variable {T : TagTables} {index : Option LineIndex}

/-! ## Equations -/

theorem segment_branch (l : Label) (cs : List Node) :
    segment T index (branch l cs) = do return branch l (← segmentAll T index cs) := by
  rw [segment]

theorem segment_stub (l : Label) : segment T index (stub l) = .ok (stub l) := by
  rw [segment]

theorem segmentAll_nil : segmentAll T index [] = .ok [] := by
  rw [segmentAll]

theorem segmentAll_cons_closed {c : Node} (h : c.label.openText? = none) (cs : List Node) :
    segmentAll T index (c :: cs) = do
      let first ← segment T index c
      return first :: (← segmentAll T index cs) := by
  rw [segmentAll]
  split
  · rfl
  · next t ht =>
      rw [h] at ht
      cases ht

/-- What takes the place of a text that splits into the given nodes. -/
def replacement (T : TagTables) (index : Option LineIndex) (c : Node) (t : Text)
    (split : List Node) : Except DocumentError (List Node) :=
  if isUnsplit t split then .ok [c] else split.mapM (segment T index)

theorem segmentAll_cons_open {c : Node} {t : Text} (h : c.label.openText? = some t)
    (cs : List Node) :
    segmentAll T index (c :: cs) = do
      let split ← splitText T (c.label.placement index) t
      let first ← replacement T index c t split
      return first ++ (← segmentAll T index cs) := by
  rw [segmentAll]
  split
  · next hn =>
      rw [h] at hn
      cases hn
  · next u hu =>
      have hut : u = t := Option.some.inj (hu.symm.trans h)
      subst hut
      split
      · next e he =>
          rw [he]
          rfl
      · next split hs =>
          -- The recursion needs to know that a node was split off; its result does not depend on
          -- that.
          have hm : split.attach.mapM (fun x => segment T index x.1) =
              split.mapM (segment T index) := by
            rw [List.mapM_subtype (g := segment T index) (fun _ _ => rfl), List.unattach_attach]
          rw [hs, hm]
          change _ = do
            let first ← replacement T index c u split
            return first ++ (← segmentAll T index cs)
          unfold replacement
          cases isUnsplit u split <;> rfl

end Node

/-- A list is mapped by a step that may fail, one by one. -/
theorem forall₂_of_mapM {α β : Type} {f : α → Except DocumentError β} {as : List α}
    {bs : List β} (h : as.mapM f = .ok bs) : List.Forall₂ (fun a b => f a = .ok b) as bs := by
  induction as generalizing bs with
  | nil =>
      cases h
      exact .nil
  | cons a as ih =>
      rw [List.mapM_cons] at h
      rcases exists_ok_of_bind h with ⟨b, hb, h⟩
      rcases exists_ok_of_bind h with ⟨rest, hr, h⟩
      cases h
      exact .cons hb (ih hr)

/-- What a list on the right holds has a partner on the left. -/
theorem exists_mem_of_forall₂ {α β : Type} {R : α → β → Prop} {as : List α} {bs : List β}
    (h : List.Forall₂ R as bs) {b : β} (hb : b ∈ bs) : ∃ a ∈ as, R a b := by
  induction h with
  | nil => cases hb
  | @cons a b' as bs hab _ ih =>
      rcases List.mem_cons.1 hb with rfl | hb
      · exact ⟨a, List.mem_cons_self, hab⟩
      · rcases ih hb with ⟨a', ha', hab'⟩
        exact ⟨a', List.mem_cons_of_mem _ ha', hab'⟩

namespace Node

variable {T : TagTables} {index : Option LineIndex}

/-! ## Induction -/

/-- A node that a text falls into is a leaf, unless it is the node of a block. -/
theorem leaf_or_block_of_mem_splitText {p : Placement} {t : Text} {split : List Node}
    (h : splitText T p t = .ok split) {n : Node} (hn : n ∈ split) :
    (∃ l, n = leaf l) ∨ ∃ place opening body closing isVerbatim,
      .block opening body closing isVerbatim ∈ pieces T t ∧
      p.node place (.block opening body closing isVerbatim) = .ok n := by
  rw [splitText] at h
  split at h
  · rcases exists_ok_of_bind h with ⟨position, _, h⟩
    cases h
    exact .inl ⟨_, List.mem_singleton.1 hn⟩
  · rcases exists_mem_of_nodes h hn with ⟨q, hmem, place, hq⟩
    cases q with
    | text u =>
        rcases Placement.exists_of_node_text hq with ⟨l, _, rfl⟩
        exact .inl ⟨l, rfl⟩
    | expression raw =>
        rcases Placement.exists_of_node_expression hq with ⟨position, _, rfl⟩
        exact .inl ⟨_, rfl⟩
    | tag raw =>
        rcases Placement.exists_of_node_tag hq with ⟨position, _, rfl⟩
        exact .inl ⟨_, rfl⟩
    | block opening body closing isVerbatim =>
        exact .inr ⟨place, opening, body, closing, isVerbatim, hmem, hq⟩

theorem exists_branch_of_splitText {p : Placement} {t : Text} {split : List Node}
    (h : splitText T p t = .ok split) {n : Node} (hn : n ∈ split) : ∃ l cs, n = branch l cs := by
  rcases leaf_or_block_of_mem_splitText h hn with ⟨l, rfl⟩ | ⟨_, _, _, _, _, _, hq⟩
  · exact ⟨l, [], rfl⟩
  · rcases Placement.exists_of_node_block hq with ⟨position, first, inner, last, _, _, _, _, rfl⟩
    exact ⟨_, _, rfl⟩

/-- Induction over splitting.  A text that gives way is followed into the children of the nodes
that take its place. -/
theorem segmentAll_induction {P : List Node → List Node → Prop}
    (nil : P [] [])
    (branch : ∀ l cs cs' ns ns', l.openText? = none → P cs cs' → P ns ns' →
      P (.branch l cs :: ns) (.branch l cs' :: ns'))
    (stub : ∀ l ns ns', l.openText? = none → P ns ns' → P (.stub l :: ns) (.stub l :: ns'))
    (kept : ∀ c t split ns ns', c.label.openText? = some t →
      splitText T (c.label.placement index) t = .ok split → isUnsplit t split = true →
      P ns ns' → P (c :: ns) (c :: ns'))
    (replaced : ∀ c t split new ns ns', c.label.openText? = some t →
      splitText T (c.label.placement index) t = .ok split → isUnsplit t split = false →
      List.Forall₂ (fun n n' => ∃ l ds ds', n = .branch l ds ∧ n' = .branch l ds' ∧
        segmentAll T index ds = .ok ds' ∧ P ds ds') split new →
      P ns ns' → P (c :: ns) (new ++ ns'))
    {ns ns' : List Node} (h : segmentAll T index ns = .ok ns') : P ns ns' := by
  generalize hk : unsplitSizeAll ns = k
  induction k using Nat.strongRecOn generalizing ns ns' with
  | ind k ih =>
    -- Each recursive call is on nodes that hold less text to split.
    cases ns with
    | nil =>
        rw [segmentAll_nil] at h
        cases h
        exact nil
    | cons c ns =>
        have hrest : unsplitSizeAll ns < k := by
          simp only [← hk, unsplitSizeAll]
          omega
        have hbelow := c.unsplitBelow_lt
        cases ho : c.label.openText? with
        | none =>
            rw [segmentAll_cons_closed ho] at h
            rcases exists_ok_of_bind h with ⟨first, hf, h⟩
            rcases exists_ok_of_bind h with ⟨rest, hr, h⟩
            cases h
            have hns := ih _ hrest hr rfl
            cases c with
            | stub l =>
                rw [segment_stub] at hf
                cases hf
                exact stub l _ _ ho hns
            | branch l cs =>
                rw [segment_branch] at hf
                rcases exists_ok_of_bind hf with ⟨cs', hc, hf⟩
                cases hf
                have hcs : unsplitSizeAll cs < k := by
                  simp only [← hk, unsplitSizeAll, unsplitSize]
                  omega
                exact branch l _ _ _ _ ho (ih _ hcs hc rfl) hns
        | some t =>
            rw [segmentAll_cons_open ho] at h
            rcases exists_ok_of_bind h with ⟨split, hs, h⟩
            rcases exists_ok_of_bind h with ⟨first, hf, h⟩
            rcases exists_ok_of_bind h with ⟨rest, hr, h⟩
            cases h
            have hns := ih _ hrest hr rfl
            cases hu : isUnsplit t split with
            | true =>
                simp only [replacement, hu, if_true] at hf
                cases hf
                exact kept c t split _ _ ho hs hu hns
            | false =>
                simp only [replacement, hu, Bool.false_eq_true, if_false] at hf
                refine replaced c t split _ _ _ ho hs hu ?_ hns
                -- The new nodes hold less text below them than the text they were cut from.
                refine List.forall₂_iff_zip.2 ⟨(forall₂_of_mapM hf).length_eq, fun {n n'} hz => ?_⟩
                have hn := (List.forall₂_iff_zip.1 (forall₂_of_mapM hf)).2 hz
                rcases exists_branch_of_splitText hs (List.of_mem_zip hz).1 with ⟨l, ds, rfl⟩
                rw [segment_branch] at hn
                rcases exists_ok_of_bind hn with ⟨ds', hd, hn⟩
                cases hn
                have hle := unsplitBelow_le_of_mem hs (List.of_mem_zip hz).1
                have hds : unsplitSizeAll ds < k := by
                  simp only [unsplitBelow, children, ho, Option.getD_some] at hle hbelow
                  simp only [← hk, unsplitSizeAll]
                  omega
                exact ⟨l, ds, ds', rfl, rfl, hd, ih _ hds hd rfl⟩

/-- What holds of all labels before splitting, and of the labels that a text gives way to, holds of
all labels behind splitting. -/
theorem segmentAll_labels {Q : Label → Prop}
    (hsplit : ∀ l t split, Q l → l.openText? = some t →
      splitText T (l.placement index) t = .ok split → ∀ k ∈ labelsAll split, Q k)
    {ns ns' : List Node} (h : segmentAll T index ns = .ok ns') :
    (∀ l ∈ labelsAll ns, Q l) → ∀ l ∈ labelsAll ns', Q l := by
  refine segmentAll_induction (P := fun ns ns' =>
    (∀ l ∈ labelsAll ns, Q l) → ∀ l ∈ labelsAll ns', Q l) ?nil ?branch ?stub ?kept ?replaced h
  case nil =>
    intro hall
    exact hall
  case branch =>
    intro l cs cs' ns ns' _ ihBelow ihRest hall
    rcases forall_labelsAll_cons.1 hall with ⟨hfirst, hrest⟩
    rcases forall_labels_branch.1 hfirst with ⟨hl, hcs⟩
    exact forall_labelsAll_cons.2 ⟨forall_labels_branch.2 ⟨hl, ihBelow hcs⟩, ihRest hrest⟩
  case stub =>
    intro l ns ns' _ ihRest hall
    rcases forall_labelsAll_cons.1 hall with ⟨hfirst, hrest⟩
    exact forall_labelsAll_cons.2 ⟨hfirst, ihRest hrest⟩
  case kept =>
    intro c t split ns ns' _ _ _ ihRest hall
    rcases forall_labelsAll_cons.1 hall with ⟨hfirst, hrest⟩
    exact forall_labelsAll_cons.2 ⟨hfirst, ihRest hrest⟩
  case replaced =>
    intro c t split new ns ns' ho hs hu hnew ihRest hall
    rcases forall_labelsAll_cons.1 hall with ⟨hc, hrest⟩
    have hsplit' : ∀ k ∈ labelsAll split, Q k :=
      hsplit _ t split (hc _ (label_mem_labels_self c)) ho hs
    -- The new nodes keep their labels, and what is below them was split in its turn.
    have hnew' : ∀ l ∈ labelsAll new, Q l := by
      clear hs ho hc hu
      induction hnew with
      | nil => exact hsplit'
      | @cons n n' split new hn _ ih =>
          rcases hn with ⟨l, ds, ds', rfl, rfl, _, hd⟩
          rcases forall_labelsAll_cons.1 hsplit' with ⟨hfirst, hsplitRest⟩
          rcases forall_labels_branch.1 hfirst with ⟨hl, hds⟩
          exact forall_labelsAll_cons.2 ⟨forall_labels_branch.2 ⟨hl, hd hds⟩, ih hsplitRest⟩
    exact forall_labelsAll_append.2 ⟨hnew', ihRest hrest⟩

/-- What holds of the labels that the parts of a text are given holds of the labels of the node of a
piece. -/
theorem labels_of_node {Q : Label → Prop} {p : Placement} {start : Nat} {q : Piece} {n : Node}
    (hfilled : q.Filled) (hq : p.node start q = .ok n)
    (htext : ∀ start u l, p.textLabel start u = .ok l →
      Q l ∧ Q { l with data := l.data.put Data.verbatimKey (.bool true) })
    (hconstruct : ∀ start stop position raw, raw ≠ [] → p.position start stop = .ok position →
      Q (.expression raw position) ∧ Q (.tag raw position) ∧ Q (.block raw position)) :
    ∀ l ∈ n.labels, Q l := by
  cases q with
  | text u =>
      rcases Placement.exists_of_node_text hq with ⟨l, hl, rfl⟩
      exact forall_labels_leaf.2 (htext _ _ _ hl).1
  | expression raw =>
      rcases Placement.exists_of_node_expression hq with ⟨position, hp, rfl⟩
      exact forall_labels_leaf.2 (hconstruct _ _ _ _ hfilled hp).1
  | tag raw =>
      rcases Placement.exists_of_node_tag hq with ⟨position, hp, rfl⟩
      exact forall_labels_leaf.2 (hconstruct _ _ _ _ hfilled hp).2.1
  | block opening body closing isVerbatim =>
      rcases Placement.exists_of_node_block hq with
        ⟨position, firstPosition, inner, lastPosition, hp, hfp, hi, hlp, rfl⟩
      -- A block has a label of its own, and those of its two tags and of its body.
      have hfirst : Q (.tag opening firstPosition) := (hconstruct _ _ _ _ hfilled.1 hfp).2.1
      have hlast : Q (.tag closing lastPosition) := (hconstruct _ _ _ _ hfilled.2 hlp).2.1
      have hraw : opening ++ body ++ closing ≠ [] :=
        List.append_ne_nil_of_right_ne_nil _ hfilled.2
      have hinner : ∀ k ∈ labelsAll inner, Q k := by
        rcases Placement.exists_of_bodyNodes hi with ⟨_, rfl⟩ | ⟨_, l, hl, rfl⟩
        · intro k hk
          cases hk
        · intro k hk
          rw [List.mem_singleton.1 hk]
          cases isVerbatim with
          | true => exact (htext _ _ _ hl).2
          | false => exact (htext _ _ _ hl).1
      refine forall_labels_branch.2 ⟨(hconstruct _ _ _ _ hraw hp).2.2, ?_⟩
      refine forall_labelsAll_cons.2 ⟨forall_labels_leaf.2 hfirst, ?_⟩
      refine forall_labelsAll_append.2 ⟨hinner, ?_⟩
      intro k hk
      rw [List.mem_singleton.1 hk]
      exact hlast

/-- What holds of the labels that the parts of a text are given holds of all labels that the text
gives way to. -/
theorem labels_of_splitText {Q : Label → Prop} {p : Placement} {t : Text} {split : List Node}
    (ht : t ≠ []) (hs : splitText T p t = .ok split)
    (htext : ∀ start u l, p.textLabel start u = .ok l →
      Q l ∧ Q { l with data := l.data.put Data.verbatimKey (.bool true) })
    (hconstruct : ∀ start stop position raw, raw ≠ [] → p.position start stop = .ok position →
      Q (.expression raw position) ∧ Q (.tag raw position) ∧ Q (.block raw position)) :
    ∀ l ∈ labelsAll split, Q l := by
  rw [splitText, if_neg ht] at hs
  intro l hl
  rw [labelsAll_eq_map_nodesAll] at hl
  rcases List.mem_map.1 hl with ⟨b, hb, rfl⟩
  rcases mem_nodesAll.1 hb with ⟨n, hn, hbn⟩
  rcases exists_mem_of_nodes hs hn with ⟨q, hmem, start, hq⟩
  exact labels_of_node (filled_of_mem_pieces hmem) hq htext hconstruct _ (label_mem_labels hbn)

/-- Nodes in a row are split one after another. -/
theorem exists_of_segmentAll_append {as bs ns' : List Node}
    (h : segmentAll T index (as ++ bs) = .ok ns') :
    ∃ as' bs', segmentAll T index as = .ok as' ∧ segmentAll T index bs = .ok bs' ∧
      ns' = as' ++ bs' := by
  -- Splitting a node does not look at the nodes behind it.
  induction as generalizing ns' with
  | nil => exact ⟨[], ns', segmentAll_nil, h, rfl⟩
  | cons c as ih =>
      cases ho : c.label.openText? with
      | none =>
          rw [List.cons_append, segmentAll_cons_closed ho] at h
          rcases exists_ok_of_bind h with ⟨first, hf, hrest⟩
          rcases exists_ok_of_bind hrest with ⟨rest, hr, hns⟩
          cases hns
          rcases ih hr with ⟨as', bs', ha, hb, rfl⟩
          refine ⟨first :: as', bs', ?_, hb, rfl⟩
          rw [segmentAll_cons_closed ho, hf, ha]
          rfl
      | some t =>
          rw [List.cons_append, segmentAll_cons_open ho] at h
          rcases exists_ok_of_bind h with ⟨split, hs, hfirst⟩
          rcases exists_ok_of_bind hfirst with ⟨first, hf, hrest⟩
          rcases exists_ok_of_bind hrest with ⟨rest, hr, hns⟩
          cases hns
          rcases ih hr with ⟨as', bs', ha, hb, rfl⟩
          refine ⟨first ++ as', bs', ?_, hb, (List.append_assoc _ _ _).symm⟩
          rw [segmentAll_cons_open ho, hs]
          simp only [bind, Except.bind, hf, ha, pure, Except.pure]

/-- A node without text of its own or below stays as it is. -/
theorem segmentAll_leaf {l : Label} (h : l.openText? = none) :
    segmentAll T index [leaf l] = .ok [leaf l] := by
  have hsegment : segment T index (leaf l) = .ok (leaf l) := by
    rw [leaf, segment_branch, segmentAll_nil]
    rfl
  have hclosed : (leaf l).label.openText? = none := h
  rw [segmentAll_cons_closed hclosed, hsegment, segmentAll_nil]
  rfl

/-! ## Documents -/

/-- The tree has no constructs. -/
def Plain (n : Node) : Prop :=
  ∀ l ∈ n.labels, l.kind = .plain

theorem exists_of_segmentTree_branch {l : Label} {cs : List Node} {s : Node}
    (h : segmentTree T index (some (branch l cs)) = .ok s) :
    ∃ cs', segmentAll T index cs = .ok cs' ∧ s = branch l cs' := by
  rw [segmentTree, segment_branch] at h
  rcases exists_ok_of_bind h with ⟨cs', hcs, hs⟩
  cases hs
  exact ⟨cs', hcs, rfl⟩

/-- A document is split below its root. -/
theorem exists_segmentAll_of_segmentTree {n s : Node} (h : segmentTree T index (some n) = .ok s) :
    ∃ l cs cs', n = branch l cs ∧ s = branch l cs' ∧ segmentAll T index cs = .ok cs' := by
  cases n with
  | stub l => cases h
  | branch l cs =>
      rcases exists_of_segmentTree_branch h with ⟨cs', hcs, rfl⟩
      exact ⟨l, cs, cs', rfl, rfl, hcs⟩

/-- What holds of all labels that are no constructs, and is left alone by splitting, holds of all
labels of a split document. -/
theorem forall_labels_of_segmentTree {Q : Label → Prop}
    (hplain : ∀ l : Label, l.kind = .plain → Q l)
    (hsplit : ∀ {ns ns' : List Node}, segmentAll T index ns = .ok ns' →
      (∀ l ∈ labelsAll ns, Q l) → ∀ l ∈ labelsAll ns', Q l)
    {n s : Node} (hn : n.Plain) (h : segmentTree T index (some n) = .ok s) :
    ∀ l ∈ s.labels, Q l := by
  rcases exists_segmentAll_of_segmentTree h with ⟨l, cs, cs', rfl, rfl, hcs⟩
  rcases forall_labels_branch.1 hn with ⟨hl, hbelow⟩
  refine forall_labels_branch.2 ⟨hplain l hl, hsplit hcs ?_⟩
  exact fun k hk => hplain k (hbelow k hk)

end Node
end LiquidMarkdown
