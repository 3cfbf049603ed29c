import LiquidMarkdown.Proofs.Construct.Appending
import LiquidMarkdown.Proofs.Document.Stability

/-!
# A body and its closing tag

The search for the end of a block and the cutting of a text into pieces read the same text in two
ways: the search sees tags only, cutting sees printed expressions too.  They agree on a body where
cutting, with the closing tag behind the body, comes to this tag.  This file states:

* `Complete` — a body that a closing tag can stand behind;
* `map_face_append_wrap_iff` — the closing tag is a piece of its own behind such a body only;
* `complete_of_transparent` — a body whose expressions hide no tag, and that leaves nothing open;
* `splitText_body_append_closing` — the same for the nodes of a block.
-/

namespace LiquidMarkdown

/-! ## Complete bodies -/

variable {T : TagTables} {t before inside rest body closing : Text} {isTag : Bool} {p : Piece}

/-- A closing tag can stand behind the body: nothing is left open there, no brace at the end makes
an expression of it, and no tag that opens a block finds its end in what follows up to it. -/
structure Complete (T : TagTables) (body closing : Text) : Prop where
  unclosed?_eq : unclosed? T body = none
  getLast?_ne : body.getLast? ≠ some '{'
  blockEnd?_eq : ∀ ps raw qs, pieces T body = ps ++ .tag raw :: qs →
    T.isBlockStart (Tag.scannedName raw) = true →
    blockEnd? T (Tag.scannedName raw) (qs.flatMap Piece.source ++ closing) = none

theorem unclosed?_eq_none_iff : unclosed? T t = none ↔
    ∀ u, (pieces T t).getLast? = some (.text u) → opensTag? u = none := by
  unfold unclosed?
  constructor
  · intro h u hu
    rw [hu] at h
    exact Option.map_eq_none_iff.1 h
  · intro h
    split
    · next u hu => rw [h u hu, Option.map_none]
    · rfl

theorem opensTag?_eq_none_of_nextOpening? (h : nextOpening? t = none) : opensTag? t = none := by
  cases t with
  | nil => rfl
  | cons c cs => exact (nextOpening?_cons_eq_none_iff.1 h).1

theorem unclosed?_of_none (h : nextOpening? t = none) : unclosed? T t = none := by
  refine unclosed?_eq_none_iff.2 fun u hu => ?_
  rw [pieces_of_none h] at hu
  rcases mem_textPiece_iff.1 (List.mem_of_getLast? hu) with ⟨heq, _⟩
  cases heq
  exact opensTag?_eq_none_of_nextOpening? h

theorem unclosed?_of_unclosed (h : nextOpening? t = some (before, isTag, inside))
    (hnone : constructPiece? T isTag inside = none) : unclosed? T t ≠ none := by
  intro hu
  have hlast : (pieces T t).getLast? = some (.text ((delimitersOf isTag).opening ++ inside)) := by
    rw [pieces_of_unclosed h hnone, textPiece_of_ne_nil (opening_append_ne_nil isTag inside),
      List.getLast?_concat]
  have hopens := unclosed?_eq_none_iff.1 hu _ hlast
  rw [opensTag?_eq_some_iff.2 rfl] at hopens
  cases hopens

/-- The piece of a construct is no plain text. -/
theorem ne_text_of_constructPiece? (h : constructPiece? T isTag inside = some (p, rest))
    (u : Text) :
    p ≠ .text u := by
  rintro rfl
  rcases Option.map_eq_some_iff.1 h with ⟨⟨content, r⟩, _, hpiece⟩
  cases isTag with
  | true =>
      simp only [if_true, tagPiece] at hpiece
      split at hpiece <;> cases hpiece
  | false => cases hpiece

theorem unclosed?_of_construct (h : nextOpening? t = some (before, isTag, inside))
    (hsome : constructPiece? T isTag inside = some (p, rest)) :
    unclosed? T t = none ↔ unclosed? T rest = none := by
  rw [unclosed?_eq_none_iff, unclosed?_eq_none_iff, pieces_of_construct h hsome]
  cases hrest : pieces T rest using List.reverseRecOn with
  | nil =>
      -- The construct is the last piece.
      have hp := ne_text_of_constructPiece? hsome
      simp [hp]
  | append_singleton qs q =>
      rw [← List.cons_append, ← List.append_assoc, List.getLast?_concat, List.getLast?_concat]

/-- A text that leaves nothing open holds no plain text with a delimiter in it. -/
theorem nextOpening?_eq_none_of_text_mem {u : Text} (h : unclosed? T t = none)
    (hu : .text u ∈ pieces T t) : nextOpening? u = none := by
  fun_induction pieces T t with
  | case1 t h₁ =>
      cases (mem_textPiece_iff.1 hu).1
      exact h₁
  | case2 t before isTag inside h₁ h₂ => exact absurd h (unclosed?_of_unclosed h₁ h₂)
  | case3 t before isTag inside h₁ p rest h₂ ih =>
      rcases List.mem_append.1 hu with hu | hu
      · cases (mem_textPiece_iff.1 hu).1
        exact nextOpening?_before h₁
      · rcases List.mem_cons.1 hu with hu | hu
        · exact absurd hu.symm (ne_text_of_constructPiece? h₂ u)
        · exact ih ((unclosed?_of_construct h₁ h₂).1 h) hu

theorem getLast?_wrap (isTag : Bool) (content : Text) :
    ((delimitersOf isTag).wrap content).getLast? = some '}' := by
  have hclosing : ∃ c, (delimitersOf isTag).closing = [c, '}'] := by
    cases isTag <;> exact ⟨_, rfl⟩
  rcases hclosing with ⟨c, hc⟩
  rw [Delimiters.wrap, hc, List.getLast?_append]
  rfl

/-- A construct ends with the other brace. -/
theorem getLast?_source_of_constructPiece? (h : constructPiece? T isTag inside = some (p, rest)) :
    p.source.getLast? = some '}' := by
  rcases Option.map_eq_some_iff.1 h with ⟨⟨content, r⟩, _, hpiece⟩
  cases isTag with
  | false =>
      cases hpiece
      exact getLast?_wrap false content
  | true =>
      simp only [if_true, tagPiece] at hpiece
      split at hpiece
      · next e _ =>
          cases hpiece
          have hraw : e.raw.getLast? = some '}' := getLast?_wrap true e.content
          rw [Piece.source, List.getLast?_append, hraw]
          rfl
      · cases hpiece
        exact getLast?_wrap true content

/-- A body is complete if what is behind its first construct is, and that construct is no tag which
finds an end there. -/
theorem complete_of_construct_iff (h : nextOpening? t = some (before, isTag, inside))
    (hsome : constructPiece? T isTag inside = some (p, rest)) :
    Complete T t closing ↔
      (∀ raw, p = .tag raw → T.isBlockStart (Tag.scannedName raw) = true →
        blockEnd? T (Tag.scannedName raw) (rest ++ closing) = none) ∧ Complete T rest closing := by
  have hpieces := pieces_of_construct h hsome
  have hsource : t = before ++ p.source ++ rest := by
    rw [eq_of_nextOpening? h, List.append_assoc, eq_of_constructPiece? hsome, List.append_assoc]
  constructor
  · intro hc
    refine ⟨fun raw hp hstart => ?_, (unclosed?_of_construct h hsome).1 hc.unclosed?_eq, ?_, ?_⟩
    · have hend := hc.blockEnd?_eq (textPiece before) raw (pieces T rest) (hp ▸ hpieces) hstart
      rwa [joined_pieces] at hend
    · rw [hsource] at hc
      exact getLast?_ne_of_append hc.getLast?_ne
    · intro ps raw qs hps hstart
      refine hc.blockEnd?_eq (textPiece before ++ p :: ps) raw qs ?_ hstart
      rw [hpieces, hps]
      simp
  · rintro ⟨hp, hc⟩
    refine ⟨(unclosed?_of_construct h hsome).2 hc.unclosed?_eq, ?_, ?_⟩
    · intro hlast
      rw [hsource, List.getLast?_append, List.getLast?_append,
        getLast?_source_of_constructPiece? hsome] at hlast
      cases hr : rest.getLast? with
      | none =>
          rw [hr] at hlast
          cases hlast
      | some c =>
          rw [hr] at hlast
          exact hc.getLast?_ne (hr.trans hlast)
    · intro ps raw qs hps hstart
      rw [hpieces] at hps
      have hnot : Piece.tag raw ∉ textPiece before := by
        intro hmem
        cases (mem_textPiece_iff.1 hmem).1
      -- A tag among the pieces is the construct, or is behind it: the text before it is no tag.
      rcases exists_of_append_eq_of_notMem hps hnot with ⟨ps', hps'⟩
      cases ps' with
      | nil =>
          cases hps'
          rw [joined_pieces]
          exact hp raw rfl hstart
      | cons p' ps' => exact hc.blockEnd?_eq ps' raw qs (List.cons.inj hps').2 hstart

/-! ## The closing tag as a piece -/

section

variable {content : Text}

/-- Behind a text that opens nothing and does not end with a brace, the closing tag is the next
piece. -/
theorem pieces_append_wrap
    (hcontent : Text.breakOn Delimiters.tag.closing (content ++ Delimiters.tag.closing) =
      some (content, []))
    (hstart : T.isBlockStart (Tag.nameOf content) = false) (h : nextOpening? t = none)
    (hlast : t.getLast? ≠ some '{') :
    pieces T (t ++ Delimiters.tag.wrap content) =
      textPiece t ++ [.tag (Delimiters.tag.wrap content)] := by
  have hopening : nextOpening? (t ++ Delimiters.tag.wrap content) =
      some (t, true, content ++ Delimiters.tag.closing) := by
    have hwrap : Delimiters.tag.wrap content =
        (delimitersOf true).opening ++ (content ++ Delimiters.tag.closing) := by
      rw [Delimiters.wrap, List.append_assoc]
      rfl
    rw [hwrap, nextOpening?_behind h hlast]
  have hpiece : constructPiece? T true (content ++ Delimiters.tag.closing) =
      some (.tag (Delimiters.tag.wrap content), []) := by
    have htag : tagPiece T content [] = (.tag (Delimiters.tag.wrap content), []) := by
      simp only [tagPiece, hstart, Bool.false_eq_true, if_false]
    simp only [constructPiece?, delimitersOf, if_true, hcontent, Option.map_some, htag]
  rw [pieces_of_construct hopening hpiece, pieces_of_none rfl]
  rfl

/-- Behind a text that ends with a brace, the brace and the closing tag begin an expression. -/
theorem head?_pieces_append_wrap_ne (h : nextOpening? t = none) (hlast : t.getLast? = some '{') :
    (pieces T (t ++ Delimiters.tag.wrap content)).head? ≠ some (.text t) := by
  rcases List.getLast?_eq_some_iff.1 hlast with ⟨u, rfl⟩
  have hu : nextOpening? u = none := nextOpening?_eq_none_of_append h
  have hne : u.getLast? ≠ some '{' := by
    -- Two braces would open an expression.
    intro hu'
    rcases List.getLast?_eq_some_iff.1 hu' with ⟨v, rfl⟩
    refine nextOpening?_ne_none v false [] ?_
    rw [← h]
    simp [delimitersOf, Delimiters.expression]
  have hopening : nextOpening? (u ++ ['{'] ++ Delimiters.tag.wrap content) =
      some (u, false, '%' :: content ++ Delimiters.tag.closing) := by
    have hbehind := nextOpening?_behind hu hne false ('%' :: content ++ Delimiters.tag.closing)
    simpa [delimitersOf, Delimiters.expression, Delimiters.wrap, Delimiters.tag] using hbehind
  -- The text before it is one character shorter, and what it begins is longer than a brace.
  have hhead (qs : List Piece) (hqs : qs.head? ≠ some (.text ['{'])) :
      (textPiece u ++ qs).head? ≠ some (.text (u ++ ['{'])) := by
    by_cases hnil : u = []
    · rw [hnil]
      exact hqs
    · rw [textPiece_of_ne_nil hnil]
      simp
  cases hc : constructPiece? T false ('%' :: content ++ Delimiters.tag.closing) with
  | none =>
      rw [pieces_of_unclosed hopening hc]
      refine hhead _ ?_
      rw [textPiece_of_ne_nil (opening_append_ne_nil false _)]
      simp [delimitersOf, Delimiters.expression]
  | some r =>
      rcases r with ⟨p, rest⟩
      rw [pieces_of_construct hopening hc]
      refine hhead _ fun hp => ?_
      exact ne_text_of_constructPiece? hc _ (Option.some.inj hp)

/-! ## Agreement -/

/-- The closing tag is a piece of its own behind a complete body, and behind no other. -/
theorem map_face_append_wrap_iff
    (hcontent : Text.breakOn Delimiters.tag.closing (content ++ Delimiters.tag.closing) =
      some (content, []))
    (hstart : T.isBlockStart (Tag.nameOf content) = false) (t : Text) :
    (pieces T (t ++ Delimiters.tag.wrap content)).map Piece.face =
        (pieces T t).map Piece.face ++ [(Piece.tag (Delimiters.tag.wrap content)).face] ↔
      Complete T t (Delimiters.tag.wrap content) := by
  -- Both sides go along the pieces of the text.
  fun_induction pieces T t with
  | case1 t h =>
      by_cases hlast : t.getLast? = some '{'
      · refine iff_of_false (fun heq => ?_) fun hc => hc.getLast?_ne hlast
        have hne : t ≠ [] := by
          rintro rfl
          cases hlast
        have hhead := congrArg List.head? heq
        rw [List.head?_map, textPiece_of_ne_nil hne] at hhead
        rcases Option.map_eq_some_iff.1 hhead with ⟨q, hq, hface⟩
        rw [Piece.eq_text_of_face hface] at hq
        exact head?_pieces_append_wrap_ne h hlast hq
      · refine iff_of_true ?_ ⟨unclosed?_of_none h, hlast, ?_⟩
        · rw [pieces_append_wrap hcontent hstart h hlast, List.map_append]
          rfl
        · intro ps raw qs hps
          have hmem : Piece.tag raw ∈ textPiece t := by
            rw [← pieces_of_none h, hps]
            exact List.mem_append_right _ List.mem_cons_self
          cases (mem_textPiece_iff.1 hmem).1
  | case2 t before isTag inside h₁ h₂ =>
      refine iff_of_false (fun heq => ?_) fun hc => unclosed?_of_unclosed h₁ h₂ hc.unclosed?_eq
      have hlong := nextOpening?_append h₁ (Delimiters.tag.wrap content)
      have hne := opening_append_ne_nil isTag inside
      rw [List.map_append, List.append_assoc, textPiece_of_ne_nil hne] at heq
      cases hc : constructPiece? T isTag (inside ++ Delimiters.tag.wrap content) with
      | none =>
          -- The closing tag is a part of what is never closed.
          rw [pieces_of_unclosed hlong hc, List.map_append, textPiece_of_ne_nil
            (opening_append_ne_nil isTag _)] at heq
          have hlen := congrArg List.length (List.append_cancel_left heq)
          cases hlen
      | some r =>
          -- What was never closed is closed in the closing tag.
          rcases r with ⟨p, rest⟩
          rw [pieces_of_construct hlong hc, List.map_append] at heq
          have hhead := congrArg List.head? (List.append_cancel_left heq)
          have hface : p.face = (Piece.text ((delimitersOf isTag).opening ++ inside)).face :=
            Option.some.inj hhead
          exact ne_text_of_constructPiece? hc _ (Piece.eq_text_of_face hface)
  | case3 t before isTag inside h₁ p rest h₂ ih =>
      rw [complete_of_construct_iff h₁ h₂, ← ih]
      have hlong := nextOpening?_append h₁ (Delimiters.tag.wrap content)
      rcases constructPiece?_append h₂ (Delimiters.tag.wrap content) with
        ⟨hp, hnone⟩ | ⟨raw, e, rfl, hraw, he, hblock⟩
      · -- The piece stays, and both sides come to the text behind it.
        rw [pieces_of_construct hlong hp, List.map_append, List.map_append, List.append_assoc,
          List.append_cancel_left_eq, List.map_cons, List.map_cons, List.cons_append,
          List.cons.injEq]
        exact ⟨fun heq => ⟨hnone, heq.2⟩, fun heq => ⟨rfl, heq.2⟩⟩
      · -- The tag finds an end, and is the opening tag of a block.
        refine iff_of_false (fun heq => ?_) fun hc => ?_
        · rw [pieces_of_construct hlong hblock, List.map_append, List.map_append,
            List.append_assoc, List.append_cancel_left_eq] at heq
          exact Piece.face_block_ne_tag _ _ _ _ _ (List.cons.inj heq).1
        · rw [hc.1 raw rfl hraw] at he
          cases he

end

/-! ## Legible bodies -/

/-- The search for the end of a block sees the tags of a text as cutting does: no piece hides a tag,
no literal block is left open, and no brace at the end begins a tag. -/
structure Legible (T : TagTables) (t : Text) : Prop where
  transparent : ∀ p ∈ pieces T t, p.Transparent
  hideAll_eq : T.hideAll none (tagNames t) = none
  getLast?_ne : t.getLast? ≠ some '{'

/-- Behind the first construct of such a text, both see the same. -/
theorem Legible.behind (hT : T.LiteralBlocks) (h : Legible T t)
    (h₁ : nextOpening? t = some (before, isTag, inside))
    (h₂ : constructPiece? T isTag inside = some (p, rest)) : Legible T rest := by
  have hpieces := pieces_of_construct h₁ h₂
  have hp : p.Transparent := h.transparent p (by simp [hpieces])
  refine ⟨fun q hq => h.transparent q (by simp [hpieces, hq]),
    (shown_of_construct hT h₁ h₂ hp h.hideAll_eq).2, ?_⟩
  have hlast := h.getLast?_ne
  rw [eq_of_nextOpening? h₁, List.append_assoc, eq_of_constructPiece? h₂] at hlast
  exact getLast?_ne_of_append (getLast?_ne_of_append hlast)

theorem Legible.shown_tagNames (hT : T.LiteralBlocks) (h : Legible T t) :
    T.shown none (tagNames t) = (pieces T t).flatMap (Piece.names T) :=
  TagTables.shown_tagNames hT h.transparent h.hideAll_eq

section

variable {content X n : Text}

/-- A tag that finds no end in a text finds none in a closing tag behind it, unless that closes
blocks of its type. -/
theorem Legible.blockEnd?_append_wrap (hT : T.LiteralBlocks) (h : Legible T t)
    (hcontent : Text.breakOn Delimiters.tag.closing (content ++ Delimiters.tag.closing) =
      some (content, []))
    (hname : Tag.nameOf content = Tag.endOf X) (hnX : n ≠ X) (hnone : blockEnd? T n t = none) :
    blockEnd? T n (t ++ Delimiters.tag.wrap content) = none := by
  have hnames : tagNames (t ++ Delimiters.tag.wrap content) = tagNames t ++ [Tag.endOf X] := by
    rw [tagNames_append hT h.transparent h.getLast?_ne, tagNames_wrap hcontent, hname]
  -- An end that is found with one tag more is this tag, and this one is named for another block.
  cases hend : blockEnd? T n (t ++ Delimiters.tag.wrap content) with
  | none => rfl
  | some e =>
      exfalso
      unfold blockEnd? at hnone hend
      by_cases hv : T.isVerbatim n = true
      · rw [if_pos hv] at hnone hend
        rcases exists_of_firstNamed? hend with ⟨pre, s, post, hat, hs, _⟩
        have hmem : Tag.endOf n ∈ tagNames (t ++ Delimiters.tag.wrap content) := by
          rw [tagNames, hat.spans_eq, List.map_append, List.map_cons, hs]
          exact List.mem_append_right _ List.mem_cons_self
        rw [hnames] at hmem
        rcases List.mem_append.1 hmem with hmem | hmem
        · rcases exists_firstNamed? hmem with ⟨e', he'⟩
          rw [hnone] at he'
          cases he'
        · exact hnX (Tag.endOf_injective (List.mem_singleton.1 hmem))
      · rw [if_neg hv] at hnone hend
        exact hnX (Tag.endOf_injective (eq_endOf_of_closing?_concat hnames hnone hend)).symm

/-- A tag in a body without an end in it does not open a block of the type of the whole: the body
would not be balanced. -/
theorem Legible.ne_of_blockEnd?_eq_none (hT : T.LiteralBlocks) (h : Legible T body)
    (hX : T.isBlockStart X = true) (hXv : T.isVerbatim X = false)
    (hbalanced : (nameBrackets X).Balanced (T.shown none (tagNames body))) {ps : List Piece}
    {raw : Text} (hps : pieces T body = ps ++ .tag raw :: pieces T rest) (hrest : Legible T rest)
    (hnone : blockEnd? T (Tag.scannedName raw) rest = none) : Tag.scannedName raw ≠ X := by
  intro hn
  rw [hn, blockEnd?, if_neg (by rw [hXv]; exact Bool.false_ne_true)] at hnone
  have hbehind := countP_closes_le_of_closing? hT hX hXv (by simp) hnone
  have hshown := hrest.shown_tagNames hT
  rw [tagNames] at hshown
  rw [hshown] at hbehind
  have hopens : (nameBrackets X).opens X = true := by simp [nameBrackets]
  have hcloses : (nameBrackets X).closes X = false := (nameBrackets X).disjoint X hopens
  -- The tag opens a bracket that nothing behind it closes.
  have hnames : (pieces T body).flatMap (Piece.names T) =
      ps.flatMap (Piece.names T) ++ X :: (pieces T rest).flatMap (Piece.names T) := by
    rw [hps, List.flatMap_append, List.flatMap_cons, Piece.names, hn]
    rfl
  rw [h.shown_tagNames hT, hnames] at hbalanced
  have hbefore := hbalanced.2 (ps.flatMap (Piece.names T)) (List.prefix_append _ _)
  have hall := hbalanced.1
  simp only [List.countP_append, List.countP_cons, hopens, hcloses, if_true, Bool.false_eq_true,
    if_false] at hall
  omega

/-- A body whose expressions hide no tag, and that leaves nothing open, is complete. -/
theorem complete_of_transparent (hT : T.LiteralBlocks) {opening content₀ : Text}
    (hcontent : Text.breakOn Delimiters.tag.closing (content ++ Delimiters.tag.closing) =
      some (content, []))
    (hbody : Enclosed T opening body (Delimiters.tag.wrap content) false content₀ content)
    (hv : T.isVerbatim (Tag.nameOf content₀) = false) (hclosed : unclosed? T body = none)
    (hlast : body.getLast? ≠ some '{')
    (hexpressions : ∀ raw, .expression raw ∈ pieces T body →
      Text.breakOn Delimiters.tag.opening raw = none) :
    Complete T body (Delimiters.tag.wrap content) := by
  have htransparent : ∀ p ∈ pieces T body, p.Transparent := by
    intro p hp
    cases p with
    | text u =>
        exact breakOn_of_nextOpening?_eq_none (nextOpening?_eq_none_of_text_mem hclosed hp)
    | expression raw => exact hexpressions raw hp
    | tag raw => exact trivial
    | block opening body closing isVerbatim => exact trivial
  have hlegible : Legible T body := ⟨htransparent, hbody.hideAll_eq rfl, hlast⟩
  refine ⟨hclosed, hlast, fun ps raw qs hps hstart => ?_⟩
  -- Legibility is handed on to the text behind each construct, so it holds behind this tag.
  rcases exists_tagPiece_of_handedOn (P := Legible T)
      (fun _ _ _ _ _ _ h₁ h₂ h => h.behind hT h₁ h₂) hlegible hps (fun _ => nofun)
      (fun _ => nofun) with ⟨inner, _, rest, hpiece, rfl, hrest⟩
  rcases eq_of_tagPiece_tag hpiece with ⟨rfl, rfl, hnone⟩
  have hscanned := Tag.scannedName_wrap inner
  rw [hscanned] at hstart
  have hend := hnone hstart
  rw [← hscanned] at hend
  rw [joined_pieces]
  have hne := hlegible.ne_of_blockEnd?_eq_none hT hbody.isBlockStart hv (hbody.balanced rfl) hps
    hrest hend
  exact hrest.blockEnd?_append_wrap hT hcontent hbody.nameOf_closing hne hend

end

/-! ## Nodes -/

/-- A node with a body between two others is the node of a block, and the last of them its closing
tag. -/
theorem exists_block_mem_pieces {p : Placement} {split : List Node}
    (h : splitText T p t = .ok split) {b first inner last : Node} (hb : b ∈ split)
    (hchildren : b.children = [first, inner, last]) (hbody : inner.label.openText? = some body)
    (hclosing : last.label.value = some closing) :
    ∃ opening, .block opening body closing false ∈ pieces T t := by
  rcases Node.leaf_or_block_of_mem_splitText h hb with
    ⟨l, rfl⟩ | ⟨place, opening, body', closing', isVerbatim, hmem, hq⟩
  · cases hchildren
  · rcases Placement.exists_of_node_block hq with ⟨_, _, ns, _, _, _, hi, _, rfl⟩
    rcases Placement.exists_of_bodyNodes hi with ⟨_, rfl⟩ | ⟨_, u, hu, rfl⟩
    · cases hchildren
    · cases hchildren
      cases hclosing
      cases isVerbatim with
      | true =>
          -- A body that is literal text is no open text.
          have hput := u.openText?_put_verbatim
          cases hput.symm.trans hbody
      | false =>
          rcases Placement.exists_of_textLabel hu with ⟨_, _, _, _, rfl⟩
          cases (Label.eq_of_openText? hbody).2.1
          exact ⟨opening, hmem⟩

/-- The closing tag of a block is written as a tag that nothing closes earlier. -/
theorem exists_cut_of_mem_pieces (hT : T.LiteralBlocks) {opening : Text} {isVerbatim : Bool}
    (h : .block opening body closing isVerbatim ∈ pieces T t) :
    ∃ content, closing = Delimiters.tag.wrap content ∧
      Text.breakOn Delimiters.tag.closing (content ++ Delimiters.tag.closing) =
        some (content, []) := by
  rcases exists_tagPiece_of_mem_pieces h with ⟨content, rest, rest', hpiece⟩
  rcases eq_of_tagPiece_block hpiece with ⟨e, hstart, he, _, _, hclosing, _⟩
  rcases exists_endsAt_of_blockEnd? hT hstart he with ⟨pre, s, post, hat⟩
  have hmem : s ∈ tagSpans rest := by
    rw [hat.spans_eq]
    exact List.mem_append_right _ List.mem_cons_self
  refine ⟨e.content, hclosing, ?_⟩
  rw [hat.content_eq]
  exact breakOn_content_of_mem_tagSpans hmem

theorem wrap_injective {content content' : Text}
    (h : Delimiters.tag.wrap content = Delimiters.tag.wrap content') : content = content' := by
  simpa [Delimiters.wrap] using h

/-- The body of a block, with the closing tag behind it, splits into the nodes of the body and that
tag where the body is complete, and nowhere else.  A body is complete if its expressions hide no tag
and it leaves nothing open. -/
theorem splitText_body_append_closing (hT : T.LiteralBlocks) {p : Placement} {split : List Node}
    (h : splitText T p t = .ok split) {b first inner last : Node} (hb : b ∈ split)
    (hchildren : b.children = [first, inner, last]) (hbody : inner.label.openText? = some body)
    (hclosing : last.label.value = some closing) {p₁ p₂ : Placement} (hp₁ : p₁.Placeable)
    (hp₂ : p₂.Placeable) :
    ∃ s₁ s₂, splitText T p₁ (body ++ closing) = .ok s₁ ∧ splitText T p₂ body = .ok s₂ ∧
      (s₁.map Node.face = s₂.map Node.face ++ [(Label.tagType, some closing)] ↔
        Complete T body closing) ∧
      (unclosed? T body = none → body.getLast? ≠ some '{' →
        (∀ n ∈ s₂, n.label.type = Label.expressionType → ∀ raw, n.label.value = some raw →
          Text.breakOn Delimiters.tag.opening raw = none) →
        s₁.map Node.face = s₂.map Node.face ++ [(Label.tagType, some closing)]) := by
  rcases exists_block_mem_pieces h hb hchildren hbody hclosing with ⟨opening, hmem⟩
  rcases exists_cut_of_mem_pieces hT hmem with ⟨content, rfl, hcontent⟩
  rcases exists_delimited_of_mem_pieces hmem with ⟨content₀, _, hdelimited⟩
  rcases exists_enclosed_of_mem_pieces hT hmem with ⟨content₁, content₂, henclosed⟩
  cases wrap_injective henclosed.closing_eq
  cases wrap_injective (hdelimited.opening_eq.symm.trans henclosed.opening_eq)
  have hne : body ≠ [] := (Label.eq_of_openText? hbody).2.2
  have hne' : body ++ Delimiters.tag.wrap content ≠ [] := List.append_ne_nil_of_left_ne_nil hne _
  obtain ⟨s₁, hs₁, _⟩ := Node.exists_splitText hp₁ T hne'
  obtain ⟨s₂, hs₂, _⟩ := Node.exists_splitText hp₂ T hne
  have hfaces₂ := Node.map_face_of_splitText hne hs₂
  have hstart : T.isBlockStart (Tag.nameOf content) = false := by
    rw [henclosed.nameOf_closing]
    exact T.isBlockStart_endOf _
  have hiff : s₁.map Node.face = s₂.map Node.face ++
      [(Label.tagType, some (Delimiters.tag.wrap content))] ↔
        Complete T body (Delimiters.tag.wrap content) := by
    rw [Node.map_face_of_splitText hne' hs₁, hfaces₂]
    exact map_face_append_wrap_iff hcontent hstart body
  refine ⟨s₁, s₂, hs₁, hs₂, hiff, fun hclosed hlast hexpressions => hiff.2 ?_⟩
  refine complete_of_transparent hT hcontent henclosed hdelimited.isVerbatim_eq.symm hclosed hlast
    fun raw hraw => ?_
  -- Each expression among the pieces is one of the nodes.
  have hface : (Piece.expression raw).face ∈ s₂.map Node.face := by
    rw [hfaces₂]
    exact List.mem_map_of_mem hraw
  rcases List.mem_map.1 hface with ⟨n, hn, heq⟩
  exact hexpressions n hn (congrArg Prod.fst heq) raw (congrArg Prod.snd heq)

/-- A block whose body prints the text of a closing tag. -/
def quotedTag : Text :=
  "\x7b% if a %\x7d\x7b\x7b '\x7b% endif %\x7d' \x7d\x7d\x7b% endif %\x7d"

/-- The closing tag in it. -/
def endifTag : Text :=
  "\x7b% endif %\x7d"

/-- The node of the block that the search finds in it: it ends inside the expression. -/
def quotedTagBlock : Node :=
  .branch (.block "\x7b% if a %\x7d\x7b\x7b '\x7b% endif %\x7d" none)
    [.leaf (.tag "\x7b% if a %\x7d" none),
      .leaf { type := Label.textType, value := some "\x7b\x7b '" }, .leaf (.tag endifTag none)]

theorem splitText_body_append_closing_quotedTag :
    TagTables.standard.LiteralBlocks ∧
      ∃ split, splitText .standard ⟨none, none⟩ quotedTag = .ok split ∧ quotedTagBlock ∈ split ∧
        ∃ s₁ s₂, splitText .standard ⟨none, none⟩ ("\x7b\x7b '" ++ endifTag) = .ok s₁ ∧
          splitText .standard ⟨none, none⟩ "\x7b\x7b '" = .ok s₂ ∧
          s₁.map Node.face ≠ s₂.map Node.face ++ [(Label.tagType, some endifTag)] := by
  have hpieces : pieces .standard quotedTag =
      [.block "\x7b% if a %\x7d" "\x7b\x7b '" endifTag false, .text "' \x7d\x7d",
        .tag endifTag] := by
    decide +kernel
  have hplaceable : (⟨none, none⟩ : Placement).Placeable := fun m hm => by cases hm
  have hsplit : splitText .standard ⟨none, none⟩ quotedTag = .ok [quotedTagBlock,
      .leaf { type := Label.textType, value := some "' \x7d\x7d" },
      .leaf (.tag endifTag none)] := by
    rw [splitText, if_neg (by decide), hpieces]
    rfl
  obtain ⟨s₁, s₂, hs₁, hs₂, hiff, _⟩ :=
    splitText_body_append_closing TagTables.literalBlocks_standard hsplit List.mem_cons_self rfl rfl
      rfl hplaceable hplaceable
  refine ⟨TagTables.literalBlocks_standard, _, hsplit, List.mem_cons_self, s₁, s₂, hs₁, hs₂, ?_⟩
  -- The expression that the body begins is never closed.
  intro heq
  exact absurd (hiff.1 heq).unclosed?_eq (by decide +kernel)

end LiquidMarkdown
