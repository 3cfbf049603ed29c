import LiquidMarkdown.Proofs.Construct.Appending

/-!
# Leftmost tokenisation

A text falls into pieces in exactly one way in which every construct begins with the first delimiter
that can open one and ends with the first that can close it.  This file defines:

* `Text.OpensNothing`, `Text.LeftOpen` — a text without an opening delimiter, and one that begins
  with such a delimiter and never closes it;
* `Delimiters.Spans` — a construct that ends with the first delimiter that can close it;
* `Piece.Leftmost` — what is asked of a piece with the given pieces behind it;
* `Tokenises` — the pieces cover a text, and each is as asked;
* `tokenises_iff` — the pieces of a text do so, and no others do.

None of the definitions follows the scan that finds the pieces: they speak of the delimiters that
stand in a text.
-/

namespace LiquidMarkdown

/-! ## Occurrences -/

namespace Text

variable {p t a b : Text}

/-- A text with an occurrence in it is cut there, or before. -/
theorem breakOn_append_ne_none (p a b : Text) : breakOn p (a ++ p ++ b) ≠ none := by
  induction a with
  | nil =>
      have hprefix : dropPrefix? p (p ++ b) = some b := dropPrefix?_eq_some.2 rfl
      rw [List.nil_append]
      cases ht : p ++ b with
      | nil =>
          rw [ht] at hprefix
          simp [breakOn, hprefix]
      | cons c cs =>
          rw [ht] at hprefix
          simp [breakOn, hprefix]
  | cons c a ih =>
      rw [List.cons_append, List.cons_append, breakOn]
      split
      · exact Option.some_ne_none _
      · rw [ne_eq, Option.map_eq_none_iff]
        exact ih

/-- A text is not cut where the pattern does not occur in it. -/
theorem breakOn_eq_none_iff : breakOn p t = none ↔ ¬ p <:+: t := by
  constructor
  · rintro h ⟨a, b, rfl⟩
    exact breakOn_append_ne_none p a b h
  · intro h
    cases hb : breakOn p t with
    | none => rfl
    | some r => exact absurd ⟨r.1, r.2, (breakOn_eq_some hb).symm⟩ h

/-- A text is cut at the occurrence before which none ends. -/
theorem breakOn_eq_some_iff (hp : p ≠ []) : breakOn p t = some (a, b) ↔
    t = a ++ p ++ b ∧ ∀ a', a' ++ p <+: a ++ p → a' = a := by
  constructor
  · intro h
    refine ⟨breakOn_eq_some h, ?_⟩
    rintro a' ⟨u, hu⟩
    have hcut := breakOn_of_append h hp []
    rw [List.append_nil, ← hu] at hcut
    -- What is cut off the shorter text is cut off the longer one.
    cases hshort : breakOn p (a' ++ p) with
    | none => exact absurd (List.suffix_append a' p).isInfix (breakOn_eq_none_iff.1 hshort)
    | some r =>
        rcases r with ⟨x, y⟩
        have hlong := breakOn_append hshort hp u
        rw [hcut, Option.some.injEq, Prod.mk.injEq] at hlong
        -- Nothing is left behind the cut, so that both occurrences end at the same place.
        have hu' : u = [] := (List.append_eq_nil_iff.1 hlong.2.symm).2
        rw [hu', List.append_nil] at hu
        exact List.append_cancel_right hu
  · rintro ⟨rfl, hfirst⟩
    cases hcut : breakOn p (a ++ p) with
    | none => exact absurd (List.suffix_append a p).isInfix (breakOn_eq_none_iff.1 hcut)
    | some r =>
        rcases r with ⟨x, y⟩
        have hx : x = a := hfirst x ⟨y, (breakOn_eq_some hcut).symm⟩
        subst hx
        exact breakOn_of_append hcut hp b

/-! ## Texts -/

/-- Neither a tag nor a printed expression is opened in the text. -/
def OpensNothing (t : Text) : Prop :=
  ∀ isTag, ¬ (delimitersOf isTag).opening <:+: t

/-- The text begins with a delimiter that opens a construct, and the construct is never closed. -/
def LeftOpen (t : Text) : Prop :=
  ∃ isTag inside, t = (delimitersOf isTag).opening ++ inside ∧
    ¬ (delimitersOf isTag).closing <:+: inside

theorem opensNothing_iff : t.OpensNothing ↔ nextOpening? t = none := by
  constructor
  · intro h
    cases ho : nextOpening? t with
    | none => rfl
    | some r =>
        rcases r with ⟨before, isTag, inside⟩
        exact absurd ⟨before, inside, (eq_of_nextOpening? ho).symm⟩ (h isTag)
  · rintro h isTag ⟨before, inside, rfl⟩
    rw [List.append_assoc] at h
    exact nextOpening?_ne_none before isTag inside h

end Text

/-- The construct has the given content, and ends with the first delimiter that can close it. -/
structure Delimiters.Spans (d : Delimiters) (raw content : Text) : Prop where
  raw_eq : raw = d.wrap content
  first : ∀ a, a ++ d.closing <+: content ++ d.closing → a = content

/-! ## Pieces -/

/-- The piece is a text that is left open. -/
def Piece.IsLeftOpen (q : Piece) : Prop :=
  ∃ t, q = .text t ∧ t.LeftOpen

/-- The piece is plain text. -/
def Piece.IsText (q : Piece) : Prop :=
  ∃ t, q = .text t

theorem Piece.not_isText_expression (raw : Text) : ¬ (expression raw).IsText := by
  rintro ⟨t, h⟩
  cases h

theorem Piece.not_isText_tag (raw : Text) : ¬ (tag raw).IsText := by
  rintro ⟨t, h⟩
  cases h

theorem Piece.not_isText_block (opening body closing : Text) (isVerbatim : Bool) :
    ¬ (block opening body closing isVerbatim).IsText := by
  rintro ⟨t, h⟩
  cases h

/-- What is asked of a piece with the given pieces behind it.

A text that is left open is the last piece.  Any other text opens nothing, and does not end with a
brace if anything follows; the text that follows it, if one does, is left open.  A tag that opens
blocks stands for itself where no end is found behind it, and begins a block that goes on to its end
where one is found. -/
def Piece.Leftmost (T : TagTables) (behind : List Piece) : Piece → Prop
  | text t =>
      t ≠ [] ∧ (t.LeftOpen ∧ behind = [] ∨
        t.OpensNothing ∧ (behind ≠ [] → t.getLast? ≠ some '{') ∧
          ∀ q ∈ behind.head?, q.IsText → q.IsLeftOpen)
  | expression raw => ∃ content, Delimiters.expression.Spans raw content
  | tag raw => ∃ content, Delimiters.tag.Spans raw content ∧
      (T.isBlockStart (Tag.nameOf content) = true →
        blockEnd? T (Tag.nameOf content) (behind.flatMap source) = none)
  | block opening body closing isVerbatim => ∃ content content',
      Delimiters.tag.Spans opening content ∧ closing = Delimiters.tag.wrap content' ∧
      T.isBlockStart (Tag.nameOf content) = true ∧
      blockEnd? T (Tag.nameOf content) (body ++ closing ++ behind.flatMap source) =
        some ⟨body, content', behind.flatMap source⟩ ∧
      isVerbatim = T.isVerbatim (Tag.nameOf content)

/-- The pieces are as asked, each with those behind it. -/
def Leftmost (T : TagTables) : List Piece → Prop
  | [] => True
  | q :: behind => q.Leftmost T behind ∧ Leftmost T behind

/-- The pieces cover the text, and are as asked. -/
structure Tokenises (T : TagTables) (t : Text) (ps : List Piece) : Prop where
  joined : ps.flatMap Piece.source = t
  leftmost : Leftmost T ps

/-! ## The pieces of a text -/

variable {T : TagTables} {t before inside : Text} {isTag : Bool}

/-- A text that opens nothing, before a delimiter, is a piece of its own. -/
theorem pieces_behind (h : t.OpensNothing) (hne : t ≠ []) (hlast : t.getLast? ≠ some '{')
    (isTag : Bool) (inside : Text) :
    pieces T (t ++ ((delimitersOf isTag).opening ++ inside)) =
      .text t :: pieces T ((delimitersOf isTag).opening ++ inside) := by
  have hbehind := nextOpening?_behind (Text.opensNothing_iff.1 h) hlast isTag inside
  have hopening := nextOpening?_opening isTag inside
  cases hc : constructPiece? T isTag inside with
  | none =>
      rw [pieces_of_unclosed hbehind hc, pieces_of_unclosed hopening hc, textPiece_of_ne_nil hne]
      rfl
  | some r =>
      rcases r with ⟨q, rest⟩
      rw [pieces_of_construct hbehind hc, pieces_of_construct hopening hc, textPiece_of_ne_nil hne]
      rfl

theorem Delimiters.spans_iff {raw content : Text} :
    (delimitersOf isTag).Spans raw content ↔ raw = (delimitersOf isTag).wrap content ∧
      ∀ rest, Text.breakOn (delimitersOf isTag).closing
        (content ++ (delimitersOf isTag).closing ++ rest) = some (content, rest) := by
  have hclosing : (delimitersOf isTag).closing ≠ [] := by
    cases isTag <;> exact List.cons_ne_nil _ _
  constructor
  · rintro ⟨hraw, hfirst⟩
    exact ⟨hraw, fun rest => (Text.breakOn_eq_some_iff hclosing).2 ⟨rfl, hfirst⟩⟩
  · rintro ⟨hraw, hcut⟩
    exact ⟨hraw, ((Text.breakOn_eq_some_iff hclosing).1 (hcut [])).2⟩

theorem Delimiters.spans_of_breakOn {content rest : Text}
    (h : Text.breakOn (delimitersOf isTag).closing inside = some (content, rest)) :
    (delimitersOf isTag).Spans ((delimitersOf isTag).wrap content) content := by
  have hclosing : (delimitersOf isTag).closing ≠ [] := by
    cases isTag <;> exact List.cons_ne_nil _ _
  exact ⟨rfl, ((Text.breakOn_eq_some_iff hclosing).1 h).2⟩

/-- A construct that ends with the first delimiter that can close it is what a scan from its opening
delimiter finds. -/
theorem constructPiece?_of_spans (T : TagTables) (isTag : Bool) {raw content : Text}
    (h : (delimitersOf isTag).Spans raw content) (rest : Text) :
    raw ++ rest = (delimitersOf isTag).opening ++
        (content ++ (delimitersOf isTag).closing ++ rest) ∧
      constructPiece? T isTag (content ++ (delimitersOf isTag).closing ++ rest) = some
        (if isTag then tagPiece T content rest
          else (.expression (Delimiters.expression.wrap content), rest)) := by
  rcases Delimiters.spans_iff.1 h with ⟨rfl, hcut⟩
  refine ⟨by simp [Delimiters.wrap], ?_⟩
  rw [constructPiece?, hcut rest]
  rfl

/-! ## Pieces are as asked -/

/-- A text that opens nothing may stand before pieces of which the first is no text, or one that is
left open. -/
theorem leftmost_textPiece_append (h : t.OpensNothing) (hlast : t.getLast? ≠ some '{')
    {ps : List Piece} (hps : Leftmost T ps) (hhead : ∀ q ∈ ps.head?, q.IsText → q.IsLeftOpen) :
    Leftmost T (textPiece t ++ ps) := by
  by_cases hne : t = []
  · rw [hne]
    exact hps
  · rw [textPiece_of_ne_nil hne]
    exact ⟨⟨hne, .inr ⟨h, fun _ => hlast, hhead⟩⟩, hps⟩

/-- The piece that a scan cuts off at a delimiter is no text, and is as asked before whatever pieces
cover the rest. -/
theorem leftmost_of_constructPiece? {q : Piece} {rest : Text} {ps : List Piece}
    (h : constructPiece? T isTag inside = some (q, rest)) (hps : ps.flatMap Piece.source = rest) :
    q.Leftmost T ps ∧ ¬ q.IsText := by
  rcases Option.map_eq_some_iff.1 h with ⟨⟨content, r⟩, hb, hq⟩
  have hspans := Delimiters.spans_of_breakOn hb
  cases isTag with
  | false =>
      cases hq
      exact ⟨⟨content, hspans⟩, Piece.not_isText_expression _⟩
  | true =>
      simp only [if_true] at hq
      cases q with
      | text u =>
          simp only [tagPiece] at hq
          split at hq <;> cases hq
      | expression raw =>
          simp only [tagPiece] at hq
          split at hq <;> cases hq
      | tag raw =>
          rcases eq_of_tagPiece_tag hq with ⟨rfl, rfl, hnone⟩
          refine ⟨⟨content, hspans, ?_⟩, Piece.not_isText_tag _⟩
          rwa [hps]
      | block opening body closing isVerbatim =>
          -- A block ends where the search says, and the search looks at the text that the pieces
          -- cover.
          have hcover := eq_of_tagPiece T content r
          rcases eq_of_tagPiece_block hq with ⟨e, hstart, he, rfl, rfl, rfl, rfl⟩
          have hrest : rest = e.rest := by
            simp only [tagPiece, hstart, if_true, he] at hq
            cases hq
            rfl
          refine ⟨⟨content, e.content, hspans, rfl, hstart, ?_, rfl⟩,
            Piece.not_isText_block _ _ _ _⟩
          have hr : e.body ++ e.raw ++ e.rest = r := (eq_of_blockEnd? he).symm
          rw [hps, hrest, hr, he]

theorem leftmost_pieces (T : TagTables) (t : Text) : Leftmost T (pieces T t) := by
  fun_induction pieces T t with
  | case1 t h =>
      by_cases hne : t = []
      · rw [hne]
        exact trivial
      · rw [textPiece_of_ne_nil hne]
        exact ⟨⟨hne,
          .inr ⟨Text.opensNothing_iff.2 h, fun hnil => absurd rfl hnil, by simp⟩⟩, trivial⟩
  | case2 t before isTag inside h₁ h₂ =>
      have hopen : Text.LeftOpen ((delimitersOf isTag).opening ++ inside) :=
        ⟨isTag, inside, rfl, Text.breakOn_eq_none_iff.1 (Option.map_eq_none_iff.1 h₂)⟩
      have hne := opening_append_ne_nil isTag inside
      rw [textPiece_of_ne_nil hne]
      refine leftmost_textPiece_append (Text.opensNothing_iff.2 (nextOpening?_before h₁))
        (getLast?_before_ne h₁) ⟨⟨hne, .inl ⟨hopen, rfl⟩⟩, trivial⟩ ?_
      intro q hq _
      cases hq
      exact ⟨_, rfl, hopen⟩
  | case3 t before isTag inside h₁ q rest h₂ ih =>
      rcases leftmost_of_constructPiece? h₂ (joined_pieces T rest) with ⟨hq, hconstruct⟩
      refine leftmost_textPiece_append (Text.opensNothing_iff.2 (nextOpening?_before h₁))
        (getLast?_before_ne h₁) ⟨hq, ih⟩ ?_
      intro q' hq' htext
      cases hq'
      exact absurd htext hconstruct

/-! ## No other pieces are -/

/-- A piece that is as asked begins with a delimiter that opens a construct, unless it is a text
that opens nothing. -/
theorem exists_opening_of_leftmost {q : Piece} {ps : List Piece} (h : q.Leftmost T ps)
    (htext : q.IsText → q.IsLeftOpen) :
    ∃ isTag inside, q.source = (delimitersOf isTag).opening ++ inside := by
  cases q with
  | text t =>
      rcases htext ⟨t, rfl⟩ with ⟨u, hu, isTag, inside, ht, _⟩
      cases hu
      exact ⟨isTag, inside, ht⟩
  | expression raw =>
      rcases h with ⟨content, hspans⟩
      exact ⟨false, _, by rw [Piece.source, hspans.raw_eq, Delimiters.wrap, List.append_assoc]; rfl⟩
  | tag raw =>
      rcases h with ⟨content, hspans, _⟩
      exact ⟨true, _, by rw [Piece.source, hspans.raw_eq, Delimiters.wrap, List.append_assoc]; rfl⟩
  | block opening body closing isVerbatim =>
      rcases h with ⟨content, _, hspans, _⟩
      refine ⟨true, content ++ Delimiters.tag.closing ++ body ++ closing, ?_⟩
      rw [Piece.source, hspans.raw_eq, Delimiters.wrap]
      simp [delimitersOf]

/-- A construct that is as asked is the piece that a scan cuts off. -/
theorem pieces_of_leftmost {q : Piece} {ps : List Piece} (h : q.Leftmost T ps)
    (htext : ¬ q.IsText) :
    pieces T (q.source ++ ps.flatMap Piece.source) =
      q :: pieces T (ps.flatMap Piece.source) := by
  cases q with
  | text t => exact absurd ⟨t, rfl⟩ htext
  | expression raw =>
      rcases h with ⟨content, hspans⟩
      rcases constructPiece?_of_spans T false hspans (ps.flatMap Piece.source) with
        ⟨heq, hcut⟩
      rw [Piece.source, heq, pieces_of_construct (nextOpening?_opening false _) hcut, hspans.raw_eq]
      rfl
  | tag raw =>
      rcases h with ⟨content, hspans, hnone⟩
      rcases constructPiece?_of_spans T true hspans (ps.flatMap Piece.source) with
        ⟨heq, hcut⟩
      -- A tag stays a piece of its own where it opens no block, or no end for its block is found.
      have hpiece : tagPiece T content (ps.flatMap Piece.source) =
          (.tag raw, ps.flatMap Piece.source) := by
        rw [hspans.raw_eq]
        by_cases hstart : T.isBlockStart (Tag.nameOf content) = true
        · simp [tagPiece, hstart, hnone hstart]
        · simp [tagPiece, hstart]
      rw [if_pos rfl, hpiece] at hcut
      rw [Piece.source, heq, pieces_of_construct (nextOpening?_opening true _) hcut]
      rfl
  | block opening body closing isVerbatim =>
      rcases h with ⟨content, content', hspans, rfl, hstart, hend, rfl⟩
      -- The opening tag is cut off in front of the body and the closing tag, and these belong to
      -- the piece.
      generalize hrest : ps.flatMap Piece.source = rest at hend ⊢
      rcases constructPiece?_of_spans T true hspans
        (body ++ Delimiters.tag.wrap content' ++ rest) with ⟨heq, hcut⟩
      have hpiece : tagPiece T content (body ++ Delimiters.tag.wrap content' ++ rest) =
          (.block opening body (Delimiters.tag.wrap content') (T.isVerbatim (Tag.nameOf content)),
            rest) := by
        rw [hspans.raw_eq]
        simp only [tagPiece, hstart, if_true, hend]
        rfl
      rw [if_pos rfl, hpiece] at hcut
      have hsource : (Piece.block opening body (Delimiters.tag.wrap content')
          (T.isVerbatim (Tag.nameOf content))).source ++ rest =
          opening ++ (body ++ Delimiters.tag.wrap content' ++ rest) := by
        simp [Piece.source]
      rw [hsource, heq, pieces_of_construct (nextOpening?_opening true _) hcut]
      rfl

/-- Pieces that are as asked are those of the text that they cover. -/
theorem eq_pieces_of_leftmost {ps : List Piece} (h : Leftmost T ps) :
    ps = pieces T (ps.flatMap Piece.source) := by
  induction ps with
  | nil =>
      rw [List.flatMap_nil, pieces_of_none rfl]
      rfl
  | cons q ps ih =>
      rcases h with ⟨hq, hps⟩
      rw [List.flatMap_cons]
      by_cases htext : q.IsText
      · rcases htext with ⟨t, rfl⟩
        rcases hq with ⟨hne, ⟨⟨isTag, inside, rfl, hopen⟩, rfl⟩ | ⟨hnothing, hlast, hhead⟩⟩
        · -- A text that is left open stands last.
          have hnone : constructPiece? T isTag inside = none :=
            Option.map_eq_none_iff.2 (Text.breakOn_eq_none_iff.2 hopen)
          rw [List.flatMap_nil, List.append_nil, Piece.source,
            pieces_of_unclosed (nextOpening?_opening isTag inside) hnone, textPiece_of_ne_nil hne]
          rfl
        · cases ps with
          | nil =>
              rw [List.flatMap_nil, List.append_nil, Piece.source,
                pieces_of_none (Text.opensNothing_iff.1 hnothing), textPiece_of_ne_nil hne]
          | cons r ps =>
              -- What follows begins with a delimiter, and the text ends right before it.
              rcases exists_opening_of_leftmost hps.1 (hhead r rfl) with ⟨isTag, inside, hr⟩
              have hbehind : (r :: ps).flatMap Piece.source =
                  (delimitersOf isTag).opening ++ (inside ++ ps.flatMap Piece.source) := by
                rw [List.flatMap_cons, hr, List.append_assoc]
              rw [hbehind, Piece.source,
                pieces_behind hnothing hne (hlast (List.cons_ne_nil _ _)), ← hbehind, ← ih hps]
      · rw [pieces_of_leftmost hq htext, ← ih hps]

/-- A text is tokenised by its pieces, and by no others. -/
theorem tokenises_iff {ps : List Piece} : Tokenises T t ps ↔ ps = pieces T t := by
  constructor
  · rintro ⟨rfl, hps⟩
    exact eq_pieces_of_leftmost hps
  · rintro rfl
    exact ⟨joined_pieces T t, leftmost_pieces T t⟩

end LiquidMarkdown
