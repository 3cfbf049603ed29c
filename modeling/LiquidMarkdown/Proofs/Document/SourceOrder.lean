import LiquidMarkdown.Proofs.Annotation.Totality
import LiquidMarkdown.Proofs.Source.Advance

/-!
# The order of tags in the source

Tags are paired in the order of their offsets, if all of them have one.  Splitting leaves the tags
in this order, where the texts were in it.  This file defines:

* `Label.Within` — the label stands between two places of the source;
* `InOrder` — the labels stand in the source one behind another;
* `Node.inOrder_segmentAll` — splitting keeps labels in order;
* `Label.Unplaced`, `Node.unplaced_segmentAll` — tags from a text without a place have no offset;
* `Roster.Apart` — tags whose ranges stand one behind another, as far as they are known, and which
  sorting by offsets does not move;
* `Roster.Ordered` — tags in the order of their offsets, which are paired in this order.
-/

namespace LiquidMarkdown

/-! ## Labels in order -/

/-- A text that may hold constructs, or a tag, stands between two places of the source, if it has a
place there. -/
structure Label.Within (ix : LineIndex) (inside : Prop) (lo hi : Nat) (l : Label) : Prop where
  le : lo ≤ hi
  text : ∀ t, l.openText? = some t → ∃ B : Nat → Nat, lo ≤ B 0 ∧ B t.length ≤ hi ∧
    (l.placement (some ix)).Spreads ix inside B t.length
  tag : ∀ t, l.kind = .tag t → ∀ p, l.position = some p → p.Within inside lo hi

/-- The labels stand in the source one behind another, between two places. -/
def InOrder (ix : LineIndex) (inside : Prop) (lo hi : Nat) : List Label → Prop
  | [] => lo ≤ hi
  | l :: ls => ∃ mid, l.Within ix inside lo mid ∧ InOrder ix inside mid hi ls

namespace Label

variable {ix : LineIndex} {inside : Prop} {lo hi : Nat} {l : Label}

theorem Within.mono (h : l.Within ix inside lo hi) {lo' hi' : Nat} (hlo : lo' ≤ lo)
    (hhi : hi ≤ hi') :
    l.Within ix inside lo' hi' where
  le := Nat.le_trans hlo (Nat.le_trans h.le hhi)
  text t ht := by
    rcases h.text t ht with ⟨B, hfirst, hlast, hspreads⟩
    exact ⟨B, Nat.le_trans hlo hfirst, Nat.le_trans hlast hhi, hspreads⟩
  tag t ht p hp := (h.tag t ht p hp).mono hlo hhi

/-- A label that is neither a text that may hold constructs nor a tag stands anywhere. -/
theorem within_of_closed (h : lo ≤ hi) (ho : l.openText? = none) (hk : ∀ t, l.kind ≠ .tag t) :
    l.Within ix inside lo hi where
  le := h
  text t ht := by
    rw [ho] at ht
    cases ht
  tag t ht := absurd ht (hk t)

end Label

namespace InOrder

variable {ix : LineIndex} {inside : Prop} {lo mid hi : Nat} {as bs : List Label}

theorem le (h : InOrder ix inside lo hi as) : lo ≤ hi := by
  induction as generalizing lo with
  | nil => exact h
  | cons l ls ih =>
      rcases h with ⟨mid, hl, hls⟩
      exact Nat.le_trans hl.le (ih hls)

theorem append (ha : InOrder ix inside lo mid as) (hb : InOrder ix inside mid hi bs) :
    InOrder ix inside lo hi (as ++ bs) := by
  -- Where the first labels end, the others begin.
  induction as generalizing lo with
  | nil =>
      cases bs with
      | nil => exact Nat.le_trans ha hb
      | cons l ls =>
          rcases hb with ⟨last, hl, hls⟩
          exact ⟨last, hl.mono ha (Nat.le_refl last), hls⟩
  | cons l ls ih =>
      rcases ha with ⟨next, hl, hls⟩
      exact ⟨next, hl, ih hls⟩

/-- Labels between two places stand between places that are farther apart. -/
theorem mono (h : InOrder ix inside lo hi as) {lo' hi' : Nat} (hlo : lo' ≤ lo) (hhi : hi ≤ hi') :
    InOrder ix inside lo' hi' as := by
  have hbefore : InOrder ix inside lo' lo [] := hlo
  have hbehind : InOrder ix inside hi hi' [] := hhi
  simpa using (hbefore.append h).append hbehind

theorem exists_of_append (h : InOrder ix inside lo hi (as ++ bs)) :
    ∃ mid, InOrder ix inside lo mid as ∧ InOrder ix inside mid hi bs := by
  induction as generalizing lo with
  | nil => exact ⟨lo, Nat.le_refl lo, h⟩
  | cons l ls ih =>
      rcases h with ⟨next, hl, hls⟩
      rcases ih hls with ⟨mid, ha, hb⟩
      exact ⟨mid, ⟨next, hl, ha⟩, hb⟩

theorem singleton {l : Label} (h : l.Within ix inside lo hi) : InOrder ix inside lo hi [l] :=
  ⟨hi, h, Nat.le_refl hi⟩

theorem of_closed (h : lo ≤ hi) (ho : ∀ l ∈ as, l.openText? = none ∧ ∀ t, l.kind ≠ .tag t) :
    InOrder ix inside lo hi as := by
  induction as with
  | nil => exact h
  | cons l ls ih =>
      rcases ho l List.mem_cons_self with ⟨htext, htag⟩
      exact ⟨lo, Label.within_of_closed (Nat.le_refl lo) htext htag,
        ih fun k hk => ho k (List.mem_cons_of_mem _ hk)⟩

/-- The ranges of labels in order that are tags. -/
theorem within (h : InOrder ix inside lo hi as) {l : Label} (hl : l ∈ as) {t : Tag}
    (ht : l.kind = .tag t) {p : Position} (hp : l.position = some p) : p.Within inside lo hi := by
  induction as generalizing lo with
  | nil => cases hl
  | cons k ks ih =>
      rcases h with ⟨mid, hk, hks⟩
      rcases List.mem_cons.1 hl with rfl | hl
      · exact (hk.tag t ht p hp).mono (Nat.le_refl lo) hks.le
      · exact (ih hks hl).mono hk.le (Nat.le_refl hi)

end InOrder

/-! ## Labels of pieces -/

namespace Placement

variable {p : Placement} {ix : LineIndex} {inside : Prop} {B : Nat → Nat} {n start : Nat}

namespace Spreads

theorem within_textLabel (h : p.Spreads ix inside B n) {t : Text} (ht : t ≠ [])
    (hle : start + t.length ≤ n) {l : Label} (hl : p.textLabel start t = .ok l) :
    l.Within ix inside (B start) (B (start + t.length)) := by
  have hspreads := h.textLabel ht hle hl
  rcases exists_of_textLabel hl with ⟨position, data, _, _, rfl⟩
  refine ⟨h.le _ _ (Nat.le_add_right _ _) hle, ?_, fun u hu => by cases hu⟩
  intro u hu
  cases (Label.eq_of_openText? hu).2.1
  exact ⟨_, Nat.le_refl _, Nat.le_refl _, hspreads⟩

theorem within_tag (h : p.Spreads ix inside B n) {raw : Text} (hraw : raw ≠ [])
    (hle : start + raw.length ≤ n) {position : Option Position}
    (hp : p.position start (start + raw.length) = .ok position) :
    (Label.tag raw position).Within ix inside (B start) (B (start + raw.length)) := by
  have hpos : 0 < raw.length := List.length_pos_iff.2 hraw
  refine ⟨h.le _ _ (Nat.le_add_right _ _) hle, ?_, ?_⟩
  · intro u hu
    have hnone : (Label.tag raw position).openText? = none := rfl
    rw [hnone] at hu
    cases hu
  · intro u _ q hq
    exact h.within (by omega) hle hp hq

theorem inOrder_bodyNodes (h : p.Spreads ix inside B n) {body : Text} {isVerbatim : Bool}
    (hle : start + body.length ≤ n) {ns : List Node}
    (hns : p.bodyNodes start body isVerbatim = .ok ns) :
    InOrder ix inside (B start) (B (start + body.length)) (Node.labelsAll ns) := by
  rcases exists_of_bodyNodes hns with ⟨rfl, rfl⟩ | ⟨hne, l, hl, rfl⟩
  · exact Nat.le_refl _
  · have hwithin := h.within_textLabel hne hle hl
    refine .singleton ?_
    cases isVerbatim with
    | false => exact hwithin
    | true =>
        rcases exists_of_textLabel hl with ⟨position, data, _, _, rfl⟩
        exact Label.within_of_closed hwithin.le
          (Label.openText?_put_verbatim _) fun _ hk => by cases hk

/-- The labels of the node of a piece, with its children split, stand where the piece stands. -/
theorem inOrder_node (h : p.Spreads ix inside B n) {q : Piece} (hq : q.Filled)
    (hle : start + q.source.length ≤ n) {l : Label} {ds ds' : List Node}
    (hn : p.node start q = .ok (.branch l ds))
    (hbelow : ∀ lo hi, InOrder ix inside lo hi (Node.labelsAll ds) →
      InOrder ix inside lo hi (Node.labelsAll ds')) :
    InOrder ix inside (B start) (B (start + q.source.length)) (l :: Node.labelsAll ds') := by
  have hB : B start ≤ B (start + q.source.length) := h.le _ _ (Nat.le_add_right _ _) hle
  cases q with
  | text t =>
      rcases exists_of_node_text hn with ⟨k, hk, heq⟩
      cases heq
      exact ⟨_, h.within_textLabel hq hle hk, hbelow _ _ (Nat.le_refl _)⟩
  | expression raw =>
      rcases exists_of_node_expression hn with ⟨position, _, heq⟩
      cases heq
      exact ⟨_, Label.within_of_closed hB rfl (fun _ hk => by cases hk), hbelow _ _ (Nat.le_refl _)⟩
  | tag raw =>
      rcases exists_of_node_tag hn with ⟨position, hp, heq⟩
      cases heq
      exact ⟨_, h.within_tag hq hle hp, hbelow _ _ (Nat.le_refl _)⟩
  | block opening body closing isVerbatim =>
      rcases exists_of_node_block hn with ⟨position, first, inner, last, _, hf, hi, hl, heq⟩
      cases heq
      have hlen : (Piece.block opening body closing isVerbatim).source.length =
          opening.length + body.length + closing.length := by
        simp only [Piece.source, List.length_append]
      rw [hlen] at hle ⊢
      refine ⟨_, Label.within_of_closed (Nat.le_refl _) rfl (fun _ hk => by cases hk),
        hbelow _ _ ?_⟩
      -- Opening tag, body and closing tag stand one behind another, and the block is where its
      -- opening tag is.
      have hfirst := h.within_tag hq.1 (by omega) hf
      have hinner := h.inOrder_bodyNodes (by omega) hi
      have hlast := h.within_tag hq.2 (by omega) hl
      have hend : start + opening.length + body.length + closing.length =
          start + (opening.length + body.length + closing.length) := by omega
      rw [hend] at hlast
      rw [Node.labelsAll, Node.labelsAll_append]
      exact ⟨_, hfirst, hinner.append (.singleton hlast)⟩

/-- The labels of the nodes of pieces, with their children split, stand where the pieces stand. -/
theorem inOrder_nodes (h : p.Spreads ix inside B n) {qs : List Piece} (hqs : ∀ q ∈ qs, q.Filled)
    (hle : start + (qs.flatMap Piece.source).length ≤ n) {split new : List Node}
    (hs : p.nodes start qs = .ok split)
    (hnew : List.Forall₂ (fun n n' => ∃ l ds ds', n = .branch l ds ∧ n' = .branch l ds' ∧
      ∀ lo hi, InOrder ix inside lo hi (Node.labelsAll ds) →
        InOrder ix inside lo hi (Node.labelsAll ds'))
      split new) :
    InOrder ix inside (B start) (B (start + (qs.flatMap Piece.source).length))
      (Node.labelsAll new) := by
  -- Each piece starts where the one before it stops.
  induction qs generalizing start split new with
  | nil =>
      cases hs
      cases hnew
      exact Nat.le_refl _
  | cons q qs ih =>
      rcases exists_of_nodes_cons hs with ⟨n, ns, hn, hns, rfl⟩
      rw [List.flatMap_cons, List.length_append, ← Nat.add_assoc] at hle ⊢
      cases hnew with
      | @cons _ n' _ new hnode hnew =>
          rcases hnode with ⟨l, ds, ds', rfl, rfl, hbelow⟩
          have hhead := h.inOrder_node (hqs q List.mem_cons_self) (by omega) hn hbelow
          have htail := ih (fun q' hq' => hqs q' (List.mem_cons_of_mem _ hq')) hle hns hnew
          exact hhead.append htail

end Spreads
end Placement

namespace Node

variable {T : TagTables} {ix : LineIndex} {inside : Prop}

/-- Splitting keeps labels in order. -/
theorem inOrder_segmentAll {ns ns' : List Node} (h : segmentAll T (some ix) ns = .ok ns') :
    ∀ lo hi, InOrder ix inside lo hi (labelsAll ns) → InOrder ix inside lo hi (labelsAll ns') := by
  refine segmentAll_induction (P := fun ns ns' => ∀ lo hi,
    InOrder ix inside lo hi (labelsAll ns) → InOrder ix inside lo hi (labelsAll ns'))
    ?nil ?branch ?stub ?kept ?replaced h
  case nil =>
    intro lo hi ho
    exact ho
  case branch =>
    intro l cs cs' ns ns' _ ihBelow ihRest lo hi ho
    rcases ho.exists_of_append with ⟨mid, hfirst, hrest⟩
    rcases hfirst with ⟨next, hl, hcs⟩
    have hbelow : InOrder ix inside lo mid (l :: labelsAll cs') := ⟨next, hl, ihBelow next mid hcs⟩
    exact hbelow.append (ihRest mid hi hrest)
  case stub =>
    intro l ns ns' _ ihRest lo hi ho
    rcases ho.exists_of_append with ⟨mid, hfirst, hrest⟩
    exact hfirst.append (ihRest mid hi hrest)
  case kept =>
    intro c t split ns ns' _ _ _ ihRest lo hi ho
    rcases ho.exists_of_append with ⟨mid, hfirst, hrest⟩
    exact hfirst.append (ihRest mid hi hrest)
  case replaced =>
    intro c t split new ns ns' hopen hs _ hnew ihRest lo hi ho
    rcases ho.exists_of_append with ⟨mid, hfirst, hrest⟩
    have hc : ∃ next, c.label.Within ix inside lo next ∧ next ≤ mid := by
      cases c with
      | branch l cs =>
          rcases hfirst with ⟨next, hl, hcs⟩
          exact ⟨next, hl, hcs.le⟩
      | stub l => exact hfirst
    rcases hc with ⟨next, hwithin, hnext⟩
    rcases hwithin.text t hopen with ⟨B, hlo, hhi, hspreads⟩
    rw [splitText, if_neg (Label.eq_of_openText? hopen).2.2] at hs
    have hlen : 0 + ((pieces T t).flatMap Piece.source).length = t.length := by
      rw [joined_pieces, Nat.zero_add]
    have hnodes := hspreads.inOrder_nodes (fun q hq => filled_of_mem_pieces hq) (Nat.le_of_eq hlen)
      hs (hnew.imp fun n n' hn => by
        rcases hn with ⟨l, ds, ds', hl, hl', _, hP⟩
        exact ⟨l, ds, ds', hl, hl', hP⟩)
    rw [hlen] at hnodes
    -- The new labels stand where the text stood.
    rw [labelsAll_append]
    exact (hnodes.mono hlo (Nat.le_trans hhi hnext)).append (ihRest mid hi hrest)

end Node

/-! ## Texts without a place -/

/-- A text that may hold constructs has no place in the source, and neither has a tag. -/
structure Label.Unplaced (index : Option LineIndex) (l : Label) : Prop where
  text : ∀ t, l.openText? = some t → index = none ∨ (l.placement index).offsets = none
  tag : ∀ t, l.kind = .tag t → l.position = none

theorem Placement.position_of_unplaced {p : Placement} (hp : p.index = none ∨ p.offsets = none)
    {start stop : Nat} {position : Option Position} (h : p.position start stop = .ok position) :
    position = none := by
  unfold Placement.position at h
  rcases hp with hp | hp
  · rw [hp] at h
    cases hm : p.offsets with
    | none =>
        rw [hm] at h
        cases h
        rfl
    | some m =>
        rw [hm] at h
        cases h
        rfl
  · rw [hp] at h
    cases h
    rfl

namespace Node

variable {T : TagTables} {index : Option LineIndex}

/-- Splitting a text without a place gives tags without a place. -/
theorem unplaced_segmentAll {ns ns' : List Node} (h : segmentAll T index ns = .ok ns') :
    (∀ l ∈ labelsAll ns, l.Unplaced index) → ∀ l ∈ labelsAll ns', l.Unplaced index := by
  refine segmentAll_labels ?_ h
  intro l t split hl ho hs
  -- A part of a text has no more of a place than the text.
  have hp : (l.placement index).index = none ∨ (l.placement index).offsets = none := hl.text t ho
  have hclosed {k : Label} (ho : k.openText? = none) (hk : k.position = none) :
      k.Unplaced index := by
    refine ⟨?_, fun _ _ => hk⟩
    intro v hv
    rw [ho] at hv
    cases hv
  refine labels_of_splitText (Label.eq_of_openText? ho).2.2 hs ?_ ?_
  · intro start u k hk
    rcases Placement.exists_of_textLabel hk with ⟨position, data, hposition, hdata, rfl⟩
    have hnone := Placement.position_of_unplaced hp hposition
    subst hnone
    have hput := Label.openText?_put_verbatim
      { type := Label.textType, value := some u, data := data }
    refine ⟨⟨?_, fun _ _ => rfl⟩, hclosed hput rfl⟩
    intro v _
    rcases hp with hp | hp
    · exact .inl hp
    · have hnil : data = [] := by
        simp only [Placement.dataAt, hp] at hdata
        cases hdata
        rfl
      subst hnil
      exact .inr rfl
  · intro start stop position raw _ hposition
    have hnone := Placement.position_of_unplaced hp hposition
    subst hnone
    exact ⟨hclosed rfl rfl, hclosed rfl rfl, hclosed rfl rfl⟩

end Node

/-! ## Rosters in order -/

/-- The tag of a label, with its place. -/
def Label.placedTag? (l : Label) : Option PlacedTag :=
  l.kind.tag?.map fun t => { toTag := t, position := l.position }

theorem Node.roster_eq_filterMap (n : Node) : n.roster = n.labels.filterMap Label.placedTag? := by
  simp only [roster, tagLabels, List.map_filterMap, Option.map_map]
  rfl

namespace Roster

/-- The tags that have a place stand in the source one behind another; if they have to be `inside`,
no range of a tag is empty. -/
structure Apart (inside : Prop) (r : Roster) : Prop where
  range : ∀ t ∈ r, ∀ p, t.position = some p →
    p.start.offset ≤ p.stop.offset ∧ (inside → p.start.offset < p.stop.offset)
  behind : r.Pairwise fun s t => ∀ p q, s.position = some p → t.position = some q →
    p.stop.offset ≤ q.start.offset

end Roster

theorem Label.eq_of_placedTag? {l : Label} {s : PlacedTag} (h : l.placedTag? = some s) :
    l.kind = .tag s.toTag ∧ l.position = s.position := by
  rcases Option.map_eq_some_iff.1 h with ⟨t, ht, rfl⟩
  exact ⟨Kind.eq_tag_of_tag? ht, rfl⟩

/-- Labels that stand in order have tags that stand apart. -/
theorem InOrder.apart {ix : LineIndex} {inside : Prop} {lo hi : Nat} {ls : List Label}
    (h : InOrder ix inside lo hi ls) : Roster.Apart inside (ls.filterMap Label.placedTag?) := by
  constructor
  · intro s hs p hp
    rcases List.mem_filterMap.1 hs with ⟨l, hl, hls⟩
    rcases Label.eq_of_placedTag? hls with ⟨hk, hposition⟩
    have hwithin := h.within hl hk (hposition.trans hp)
    exact ⟨hwithin.start_le, hwithin.start_lt⟩
  · induction ls generalizing lo with
    | nil => exact .nil
    | cons l ls ih =>
        rcases h with ⟨mid, hl, hls⟩
        rw [List.filterMap_cons]
        split
        · exact ih hls
        · next s hs =>
            refine .cons ?_ (ih hls)
            intro t ht p q hp hq
            rcases Label.eq_of_placedTag? hs with ⟨hk, hposition⟩
            rcases List.mem_filterMap.1 ht with ⟨k, hkmem, hkt⟩
            rcases Label.eq_of_placedTag? hkt with ⟨hk', hposition'⟩
            -- The first tag stops before the place where the others begin.
            have hfirst := hl.tag s.toTag hk p (hposition.trans hp)
            have hlater := hls.within hkmem hk' (hposition'.trans hq)
            exact Int.le_trans hfirst.le_hi hlater.lo_le

namespace Roster

/-- The tags stand in the order of their offsets, if all of them have one. -/
def Ordered (r : Roster) : Prop :=
  (∀ t ∈ r, t.offset?.isSome = true) → r.Pairwise fun s t => s.offset?.getD 0 ≤ t.offset?.getD 0

instance (r : Roster) : Decidable r.Ordered :=
  inferInstanceAs (Decidable (_ → _))

variable {r : Roster}

/-- Tags that stand apart are in the order of their offsets. -/
theorem Apart.ordered {inside : Prop} (h : r.Apart inside) : r.Ordered := by
  intro hsome
  refine h.behind.imp_of_mem fun {s t} hs ht hbehind => ?_
  rcases Option.isSome_iff_exists.1 (hsome s hs) with ⟨o, ho⟩
  rcases Option.isSome_iff_exists.1 (hsome t ht) with ⟨o', ho'⟩
  rcases Option.map_eq_some_iff.1 ho with ⟨p, hp, rfl⟩
  rcases Option.map_eq_some_iff.1 ho' with ⟨q, hq, rfl⟩
  have hle := (h.range s hs p hp).1
  have hstop := hbehind p q hp hq
  simp only [ho, ho', Option.getD_some]
  exact Int.le_trans hle hstop

/-- The tags have the same positions, whatever else is known about them. -/
theorem Apart.of_positions_eq {inside : Prop} (h : r.Apart inside) {r' : Roster}
    (hp : r'.map (·.position) = r.map (·.position)) : r'.Apart inside where
  range t ht := by
    have hmem : t.position ∈ r.map (·.position) := hp ▸ List.mem_map_of_mem ht
    rcases List.mem_map.1 hmem with ⟨u, hu, hposition⟩
    rw [← hposition]
    exact h.range u hu
  behind := by
    have hpositions : (r.map (·.position)).Pairwise fun a b => ∀ p q, a = some p → b = some q →
        p.stop.offset ≤ q.start.offset := List.pairwise_map.2 h.behind
    rw [← hp] at hpositions
    exact List.pairwise_map.1 hpositions

/-- Some of the tags that stand apart are not moved by sorting them by their offsets. -/
theorem Apart.inDocumentOrder_eq {inside : Prop} (h : r.Apart inside) {is : List TagId}
    (hs : is.Sublist (List.range r.length)) : r.inDocumentOrder is = is := by
  unfold inDocumentOrder
  split
  · next hplaced =>
      have hall : (List.range r.length).Pairwise fun i j => ∀ p q, (r.tag i).position = some p →
          (r.tag j).position = some q → p.start.offset ≤ q.start.offset := by
        refine List.pairwise_iff_getElem.2 fun i j hi hj hij p q hp hq => ?_
        rw [List.length_range] at hi hj
        rw [List.getElem_range, ← getElem_eq_tag hi] at hp
        rw [List.getElem_range, ← getElem_eq_tag hj] at hq
        have hstart := (h.range _ (List.getElem_mem hi) p hp).1
        have hbehind := List.pairwise_iff_getElem.1 h.behind i j hi hj hij p q hp hq
        exact Int.le_trans hstart hbehind
      -- All tags that are given have a position, so the order of the tree is that of the offsets.
      refine List.mergeSort_of_pairwise ((hall.sublist hs).imp_of_mem fun {i j} hi hj hle => ?_)
      rcases Option.isSome_iff_exists.1 (List.all_eq_true.1 hplaced i hi) with ⟨o, ho⟩
      rcases Option.isSome_iff_exists.1 (List.all_eq_true.1 hplaced j hj) with ⟨o', ho'⟩
      rcases Option.map_eq_some_iff.1 ho with ⟨p, hp, rfl⟩
      rcases Option.map_eq_some_iff.1 ho' with ⟨q, hq, rfl⟩
      simpa only [ho, ho', Option.getD_some, decide_eq_true_eq] using hle p q hp hq
  · rfl

/-- Whether tags are in the order of their offsets is a matter of where they stand. -/
theorem Ordered.of_positions_eq (h : r.Ordered) {r' : Roster}
    (hp : r'.map (·.position) = r.map (·.position)) : r'.Ordered := by
  intro hplaced
  have hoffsets : r'.map (·.offset?) = r.map (·.offset?) := by
    have hmap := congrArg (List.map (Option.map fun p : Position => p.start.offset)) hp
    rwa [List.map_map, List.map_map] at hmap
  have hplaced' : ∀ t ∈ r, t.offset?.isSome = true := by
    intro t ht
    have hmem : t.offset? ∈ r'.map (·.offset?) := hoffsets ▸ List.mem_map_of_mem ht
    rcases List.mem_map.1 hmem with ⟨u, hu, hoffset⟩
    rw [← hoffset]
    exact hplaced u hu
  have hpairwise : (r.map (·.offset?)).Pairwise fun a b => a.getD 0 ≤ b.getD 0 :=
    List.pairwise_map.2 (h hplaced')
  rwa [← hoffsets, List.pairwise_map] at hpairwise

theorem Ordered.map (h : r.Ordered) (f : Tag → Tag) : Ordered (r.map (PlacedTag.mapTag f)) := by
  apply h.of_positions_eq
  rw [List.map_map]
  rfl

/-- Tags in the order of their offsets are paired in the order of their numbers. -/
theorem Ordered.inDocumentOrder_range (h : r.Ordered) :
    r.inDocumentOrder (List.range r.length) = List.range r.length := by
  unfold inDocumentOrder
  split
  · next hplaced =>
      have hsome : ∀ t ∈ r, t.offset?.isSome = true := by
        intro t ht
        rcases List.getElem_of_mem ht with ⟨i, hi, rfl⟩
        rw [getElem_eq_tag hi]
        exact List.all_eq_true.1 hplaced i (List.mem_range.2 hi)
      have hpairwise := List.pairwise_iff_getElem.1 (h hsome)
      -- Sorting leaves a list that is in order already.
      refine List.mergeSort_of_pairwise (List.pairwise_iff_getElem.2 ?_)
      intro i j hi hj hij
      rw [List.length_range] at hi hj
      have hle := hpairwise i j hi hj hij
      rw [getElem_eq_tag hi, getElem_eq_tag hj] at hle
      simpa using hle
  · rfl

end Roster

namespace Node

/-- The tags of labels in order stand apart. -/
theorem apart_of_inOrder {ix : LineIndex} {inside : Prop} {lo hi : Nat} {n : Node}
    (h : InOrder ix inside lo hi n.labels) : n.roster.Apart inside := by
  rw [roster_eq_filterMap]
  exact h.apart

/-- Tags without a place are ordered. -/
theorem ordered_of_unplaced {index : Option LineIndex} {n : Node}
    (h : ∀ l ∈ n.labels, l.Unplaced index) : n.roster.Ordered := by
  intro hsome
  -- If all tags have an offset, there are no tags at all.
  have hnil : n.roster = [] := by
    apply List.eq_nil_iff_forall_not_mem.2
    intro s hs
    have hoffset := hsome s hs
    rw [roster_eq_filterMap] at hs
    rcases List.mem_filterMap.1 hs with ⟨l, hl, hls⟩
    rcases Option.map_eq_some_iff.1 hls with ⟨t, ht, rfl⟩
    rw [PlacedTag.offset?, (h l hl).tag t (Kind.eq_tag_of_tag? ht)] at hoffset
    cases hoffset
  rw [hnil]
  exact .nil

/-- Trees that are equal up to what is known about their constructs have their tags in the same
places. -/
theorem positions_roster_of_map_bare {n m : Node} (h : m.map Label.bare = n.map Label.bare) :
    m.roster.map (·.position) = n.roster.map (·.position) := by
  have hbare (l : Label) : l.bare.placedTag?.map (·.position) = l.placedTag?.map (·.position) := by
    cases hk : l.kind with
    | plain | expression _ | tag _ | block _ _ =>
        simp [Label.placedTag?, Label.bare, hk, Kind.bare, Kind.tag?]
  have key (k : Node) : k.roster.map (·.position) =
      (k.map Label.bare).labels.filterMap fun l => l.placedTag?.map (·.position) := by
    rw [roster_eq_filterMap, labels_map, List.map_filterMap, List.filterMap_map]
    congr 1
    funext l
    exact (hbare l).symm
  rw [key, key, h]

end Node
end LiquidMarkdown
