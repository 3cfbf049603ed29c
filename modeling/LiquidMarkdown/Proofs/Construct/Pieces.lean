import LiquidMarkdown.Proofs.Construct.Nesting

/-!
# Tags of a text and tags of its pieces

The search for the end of a block goes by the tags that a scan finds in the text.  The nodes of a
document come from the pieces of the text, where a tag may be hidden in a printed expression or
behind one that is never closed.  This file states:

* `breakOn_of_nextOpening?_tag` and its like — the first delimiter of a tag and the first delimiter;
* `Tag.scannedName` — the name of a tag as the scan sees it;
* `Piece.names` — the names of the tags of a piece, as the scan sees them;
* `TagTables.shown_tagNames` — where pieces hide no tag, both see the same tags;
* `exists_tagPiece_of_pieces_eq` — where a tag or a block was cut off, and what is behind it;
* `notMem_tagNames_of_tag` — a tag that opens a literal block and is a piece of its own;
* `Delimited`, `Enclosed` — the tags around the body of a block, and the body, as the scan sees
  them.
-/

namespace LiquidMarkdown

/-! ## The first delimiter -/

variable {T : TagTables} {t u before inside : Text}

theorem opensTag?_eq_some_iff {isTag : Bool} :
    opensTag? t = some (isTag, inside) ↔ t = (delimitersOf isTag).opening ++ inside := by
  constructor
  · intro h
    unfold opensTag? at h
    split at h
    · cases h
      rfl
    · cases h
      rfl
    · cases h
  · rintro rfl
    cases isTag with
    | true => rfl
    | false => rfl

theorem dropPrefix?_of_opensTag?_eq_none (h : opensTag? t = none) :
    Text.dropPrefix? Delimiters.tag.opening t = none := by
  cases hr : Text.dropPrefix? Delimiters.tag.opening t with
  | none => rfl
  | some r =>
      have ht : t = (delimitersOf true).opening ++ r := Text.dropPrefix?_eq_some.1 hr
      rw [opensTag?_eq_some_iff.2 ht] at h
      cases h

/-- From a delimiter on, it is the first one. -/
theorem nextOpening?_opening (isTag : Bool) (inside : Text) :
    nextOpening? ((delimitersOf isTag).opening ++ inside) = some ([], isTag, inside) := by
  cases isTag <;> rfl

theorem nextOpening?_later {c : Char} {cs b : Text} {isTag : Bool} (ho : opensTag? (c :: cs) = none)
    (h : nextOpening? cs = some (b, isTag, inside)) :
    nextOpening? (c :: cs) = some (c :: b, isTag, inside) := by
  simp only [nextOpening?, ho, h, Option.map_some]

/-- Induction along the text before the first delimiter: the delimiter stands here, or nothing is
opened here and it is the first one of the rest. -/
@[elab_as_elim]
theorem nextOpening?_induction {isTag : Bool}
    {motive : ∀ t before, nextOpening? t = some (before, isTag, inside) → Prop}
    (here : motive ((delimitersOf isTag).opening ++ inside) [] (nextOpening?_opening isTag inside))
    (later : ∀ c cs b (ho : opensTag? (c :: cs) = none)
      (hb : nextOpening? cs = some (b, isTag, inside)), motive cs b hb →
        motive (c :: cs) (c :: b) (nextOpening?_later ho hb))
    (h : nextOpening? t = some (before, isTag, inside)) : motive t before h := by
  induction t generalizing before with
  | nil => cases h
  | cons c cs ih =>
      have hcons := h
      simp only [nextOpening?] at hcons
      cases ho : opensTag? (c :: cs) with
      | some r =>
          rw [ho] at hcons
          rcases r with ⟨b, i⟩
          cases hcons
          have ht := opensTag?_eq_some_iff.1 ho
          clear ho ih
          generalize c :: cs = t at ht h
          subst ht
          exact here
      | none =>
          rw [ho] at hcons
          rcases Option.map_eq_some_iff.1 hcons with ⟨⟨b, r⟩, hb, hbs⟩
          cases hbs
          exact later c cs b ho hb (ih hb)

theorem nextOpening?_cons_eq_none_iff {c : Char} {cs : Text} :
    nextOpening? (c :: cs) = none ↔ opensTag? (c :: cs) = none ∧ nextOpening? cs = none := by
  cases ho : opensTag? (c :: cs) with
  | some r => simp [nextOpening?, ho]
  | none => simp [nextOpening?, ho]

theorem breakOn_of_nextOpening?_eq_none (h : nextOpening? t = none) :
    Text.breakOn Delimiters.tag.opening t = none := by
  induction t with
  | nil => rfl
  | cons c cs ih =>
      rcases nextOpening?_cons_eq_none_iff.1 h with ⟨ho, hcs⟩
      simp only [Text.breakOn, dropPrefix?_of_opensTag?_eq_none ho, ih hcs, Option.map_none]

/-- Where the first delimiter opens a tag, the first tag starts there. -/
theorem breakOn_of_nextOpening?_tag (h : nextOpening? t = some (before, true, inside)) :
    Text.breakOn Delimiters.tag.opening t = some (before, inside) := by
  -- Both searches go through the text character by character.
  induction h using nextOpening?_induction with
  | here => rfl
  | later c cs b ho hb ih =>
      simp only [Text.breakOn, dropPrefix?_of_opensTag?_eq_none ho, ih, Option.map_some]

/-- Where the first delimiter opens an expression, the first tag starts behind it. -/
theorem breakOn_of_nextOpening?_expression (h : nextOpening? t = some (before, false, inside)) :
    Text.breakOn Delimiters.tag.opening t =
      (Text.breakOn Delimiters.tag.opening (Delimiters.expression.opening ++ inside)).map
        fun s => (before ++ s.1, s.2) := by
  induction h using nextOpening?_induction with
  | here => simp [delimitersOf]
  | later c cs b ho hb ih =>
      simp only [Text.breakOn, dropPrefix?_of_opensTag?_eq_none ho, ih, Option.map_map]
      rfl

/-! ## Names of pieces -/

/-- The name of a tag as the scan sees it: the first word between the delimiters. -/
def Tag.scannedName (raw : Text) : Text :=
  Tag.nameOf ((raw.drop Delimiters.tag.opening.length).take
    (raw.length - Delimiters.tag.opening.length - Delimiters.tag.closing.length))

theorem Tag.scannedName_wrap (content : Text) :
    Tag.scannedName (Delimiters.tag.wrap content) = Tag.nameOf content := by
  have hcontent : ((Delimiters.tag.wrap content).drop Delimiters.tag.opening.length).take
      ((Delimiters.tag.wrap content).length - Delimiters.tag.opening.length -
        Delimiters.tag.closing.length) = content := by
    simp [Delimiters.wrap, Delimiters.tag]
  rw [Tag.scannedName, hcontent]

/-- The names of the tags of a piece, as the scan sees them.  The body of a block that is literal
text has none. -/
def Piece.names (T : TagTables) : Piece → List Text
  | text _ => []
  | expression _ => []
  | tag raw => [Tag.scannedName raw]
  | block opening body closing isVerbatim =>
      Tag.scannedName opening ::
        ((if isVerbatim then [] else T.shown none (tagNames body)) ++ [Tag.scannedName closing])

/-- The piece hides no tag: neither an expression nor a plain text holds the delimiter of one. -/
def Piece.Transparent : Piece → Prop
  | text t => Text.breakOn Delimiters.tag.opening t = none
  | expression raw => Text.breakOn Delimiters.tag.opening raw = none
  | _ => True

theorem names_textPiece (T : TagTables) (t : Text) :
    (textPiece t).flatMap (Piece.names T) = [] := by
  unfold textPiece
  split
  · rfl
  · rfl

theorem mem_textPiece (h : t ≠ []) : Piece.text t ∈ textPiece t := by
  simp [textPiece, h]

/-! ## Tags of the pieces -/

/-- The names of a text around a tag that ends a block. -/
theorem tagNames_of_endsAt {pre post : List TagSpan} {s : TagSpan} {e : BlockEnd}
    (h : EndsAt (tagSpans t) e pre s post) :
    tagNames t = pre.map TagSpan.name ++ s.name :: tagNames e.rest ∧
      tagNames e.body = pre.map TagSpan.name := by
  have hrest : tagSpans e.rest = post := by
    rw [h.rest_eq]
    exact tagSpans_split h.spans_eq
  constructor
  · rw [tagNames, h.spans_eq, tagNames, hrest]
    simp
  · rw [h.body_eq]
    exact tagNames_joined h.spans_eq

/-- The tag that ends a block of the type `X`, as it is written, is named so by the scan. -/
theorem EndsAt.scannedName_raw {spans pre post : List TagSpan} {s : TagSpan} {e : BlockEnd}
    (h : EndsAt spans e pre s post) : Tag.scannedName e.raw = s.name := by
  rw [BlockEnd.raw, Tag.scannedName_wrap, h.content_eq]
  rfl

/-- The body of a literal block is hidden up to its end, and only up to there. -/
theorem shown_of_firstNamed? {n rest : Text} {e : BlockEnd} (hn : T.isVerbatim n = true)
    (he : firstNamed? (Tag.endOf n) (tagSpans rest) = some e) :
    T.shown none (n :: tagNames rest) = n :: Tag.endOf n :: T.shown none (tagNames e.rest) ∧
      T.hideAll none (n :: tagNames rest) = T.hideAll none (tagNames e.rest) ∧
      Tag.scannedName e.raw = Tag.endOf n := by
  rcases exists_of_firstNamed? he with ⟨pre, s, post, hat, hs, hnot⟩
  rcases tagNames_of_endsAt hat with ⟨hnames, _⟩
  have hsome : T.hide none n = some n := by simp [TagTables.hide, hn]
  -- Up to its end the literal block hides every tag.
  have hpre : T.hideAll (some n) (pre.map TagSpan.name) = some n :=
    TagTables.hideAll_some_of_notMem hnot
  have hend : T.hide (some n) s.name = none := by simp [TagTables.hide, hs]
  refine ⟨?_, ?_, hat.scannedName_raw.trans hs⟩
  · have hshown : T.shown none (n :: tagNames rest) = n :: T.shown (some n) (tagNames rest) := by
      rw [TagTables.shown, hsome]
    rw [hshown, hnames, TagTables.shown_append, TagTables.shown_some_of_notMem hnot, hpre]
    simp [TagTables.shown, hs]
  · calc
      T.hideAll none (n :: tagNames rest)
          = T.hideAll (some n) (tagNames rest) := by
            rw [TagTables.hideAll, List.foldl_cons, hsome]
            rfl
      _ = T.hideAll (some n) (s.name :: tagNames e.rest) := by
            rw [hnames, TagTables.hideAll_append, hpre]
      _ = T.hideAll none (tagNames e.rest) := by
            rw [TagTables.hideAll, List.foldl_cons, hend]
            rfl

/-- The body of any other block is shown, and hides nothing behind its end. -/
theorem shown_of_closing? (hT : T.LiteralBlocks) {n rest : Text} {e : BlockEnd}
    (hn : T.isBlockStart n = true) (hv : T.isVerbatim n = false)
    (he : closing? T n 0 none (tagSpans rest) = some e) :
    T.shown none (tagNames rest) =
        T.shown none (tagNames e.body) ++ Tag.endOf n :: T.shown none (tagNames e.rest) ∧
      T.hideAll none (tagNames rest) = T.hideAll none (tagNames e.rest) ∧
      Tag.scannedName e.raw = Tag.endOf n := by
  rcases exists_of_closing? hT hn hv (by simp) he with ⟨pre, s, post, hat⟩
  rcases tagNames_of_endsAt hat.toEndsAt with ⟨hnames, hbody⟩
  have hend : T.hide none (Tag.endOf n) = none := by
    simp [TagTables.hide, hT.isVerbatim_endOf]
  refine ⟨?_, ?_, hat.scannedName_raw.trans hat.name_eq⟩
  · rw [hnames, TagTables.shown_append, hat.hideAll_eq, hbody, hat.name_eq, TagTables.shown, hend]
  · rw [hnames, TagTables.hideAll_append, hat.hideAll_eq, hat.name_eq, TagTables.hideAll,
      List.foldl_cons, hend]
    rfl

/-- The tags of the text that a tag begins are those of the piece that it begins, and those of the
text behind the piece. -/
theorem shown_of_tagPiece (hT : T.LiteralBlocks) {content rest rest' : Text} {p : Piece}
    (hp : tagPiece T content rest = (p, rest'))
    (hh : T.hideAll none (Tag.nameOf content :: tagNames rest) = none) :
    T.shown none (Tag.nameOf content :: tagNames rest) =
        p.names T ++ T.shown none (tagNames rest') ∧
      T.hideAll none (tagNames rest') = none := by
  have hscanned := Tag.scannedName_wrap content
  generalize hn : Tag.nameOf content = n at *
  simp only [tagPiece, hn] at hp
  by_cases hv : T.isVerbatim n = true
  · have hsome : T.hide none n = some n := by simp [TagTables.hide, hv]
    -- Without an end, the literal block would hide all that follows.
    have hmem : Tag.endOf n ∈ (tagSpans rest).map TagSpan.name := by
      by_contra hnot
      have hhide : T.hideAll (T.hide none n) (tagNames rest) = none := hh
      rw [hsome, tagNames, TagTables.hideAll_some_of_notMem hnot] at hhide
      cases hhide
    rcases exists_firstNamed? hmem with ⟨e, he⟩
    have hblock : blockEnd? T n rest = some e := by rw [blockEnd?, if_pos hv, he]
    rw [if_pos (hT n hv), hblock] at hp
    cases hp
    rcases shown_of_firstNamed? hv he with ⟨hshown, hhide, hclosing⟩
    constructor
    · rw [hshown]
      simp [Piece.names, hv, hscanned, hclosing]
    · rw [← hhide]
      exact hh
  · have hnone : T.hide none n = none := by simp [TagTables.hide, hv]
    have hv' : T.isVerbatim n = false := Bool.eq_false_iff.2 hv
    have hshown : T.shown none (n :: tagNames rest) = n :: T.shown none (tagNames rest) := by
      rw [TagTables.shown, hnone]
    have hrest : T.hideAll none (tagNames rest) = none := by
      have hhide : T.hideAll (T.hide none n) (tagNames rest) = none := hh
      rwa [hnone] at hhide
    cases hb : (if T.isBlockStart n then blockEnd? T n rest else none) with
    | none =>
        rw [hb] at hp
        cases hp
        constructor
        · simp [hshown, Piece.names, hscanned]
        · exact hrest
    | some e =>
        rw [hb] at hp
        cases hp
        have hstart : T.isBlockStart n = true := by
          by_contra hno
          rw [if_neg hno] at hb
          cases hb
        rw [if_pos hstart, blockEnd?, if_neg hv] at hb
        rcases shown_of_closing? hT hstart hv' hb with ⟨hbody, hhide, hclosing⟩
        constructor
        · rw [hshown, hbody]
          simp [Piece.names, hv', hscanned, hclosing]
        · rw [← hhide]
          exact hrest

/-- An expression that holds no delimiter of a tag does not change where the first tag starts. -/
theorem breakOn_of_expression {content rest : Text}
    (h : nextOpening? t = some (before, false, inside))
    (hb : Text.breakOn Delimiters.expression.closing inside = some (content, rest))
    (hraw : Text.breakOn Delimiters.tag.opening (Delimiters.expression.wrap content) = none) :
    Text.breakOn Delimiters.tag.opening t =
      (Text.breakOn Delimiters.tag.opening rest).map
        fun s => (before ++ Delimiters.expression.wrap content ++ s.1, s.2) := by
  have hinside : Delimiters.expression.opening ++ inside =
      Delimiters.expression.wrap content ++ rest := by
    rw [Text.breakOn_eq_some hb]
    simp [Delimiters.wrap]
  -- An expression ends with a brace that opens nothing.
  have hbehind := Text.breakOn_of_breakOn_eq_none (u := rest) hraw fun c hc d _ hcd => by
    have hwrap : Delimiters.expression.wrap content =
        ('{' :: '{' :: (content ++ ['}'])) ++ ['}'] := by
      simp [Delimiters.wrap, Delimiters.expression]
    have hlast : c = '}' := by
      rw [hwrap, List.getLast?_concat] at hc
      cases hc
      rfl
    rw [hlast] at hcd
    exact absurd hcd.1 (by decide)
  have htag : Delimiters.tag.opening = ['{', '%'] := rfl
  rw [breakOn_of_nextOpening?_expression h, hinside, htag, hbehind, Option.map_map]
  congr 1
  funext s
  simp

/-- A text that is never closed hides no tag, if it shows none. -/
theorem breakOn_of_unclosed {isTag : Bool} (h : nextOpening? t = some (before, isTag, inside))
    (hnone : Text.breakOn Delimiters.tag.opening ((delimitersOf isTag).opening ++ inside) = none) :
    Text.breakOn Delimiters.tag.opening t = none := by
  cases isTag with
  | true =>
      -- A tag that is never closed would be seen.
      have hprefix : Text.breakOn Delimiters.tag.opening (Delimiters.tag.opening ++ inside) =
          some ([], inside) := rfl
      simp only [delimitersOf, if_true, hprefix] at hnone
      cases hnone
  | false =>
      simp only [delimitersOf, Bool.false_eq_true, if_false] at hnone
      rw [breakOn_of_nextOpening?_expression h, hnone]
      rfl

/-- The tags of a text are those of its first construct, and those of the text behind it. -/
theorem shown_of_construct (hT : T.LiteralBlocks) {isTag : Bool} {rest : Text} {p : Piece}
    (h₁ : nextOpening? t = some (before, isTag, inside))
    (h₂ : constructPiece? T isTag inside = some (p, rest)) (hp : p.Transparent)
    (hh : T.hideAll none (tagNames t) = none) :
    T.shown none (tagNames t) = p.names T ++ T.shown none (tagNames rest) ∧
      T.hideAll none (tagNames rest) = none := by
  rcases Option.map_eq_some_iff.1 h₂ with ⟨⟨content, r⟩, hb, hpiece⟩
  cases isTag with
  | true =>
      simp only [if_true] at hpiece
      have hfirst : TagSpan.first? t = some ⟨before, content, r⟩ :=
        TagSpan.first?_eq_some_iff.2 ⟨inside, breakOn_of_nextOpening?_tag h₁, hb⟩
      have hnames : tagNames t = Tag.nameOf content :: tagNames r :=
        tagNames_of_first?_eq_some hfirst
      rw [hnames] at hh ⊢
      exact shown_of_tagPiece hT hpiece hh
  | false =>
      simp only [Bool.false_eq_true, if_false] at hpiece
      cases hpiece
      have hnames : tagNames t = tagNames rest :=
        tagNames_of_breakOn (breakOn_of_expression h₁ hb hp)
      rw [hnames] at hh ⊢
      exact ⟨rfl, hh⟩

/-- Where the pieces of a text hide no tag, their tags are those that the scan finds. -/
theorem TagTables.shown_tagNames (hT : T.LiteralBlocks)
    (ht : ∀ p ∈ pieces T t, p.Transparent) (hh : T.hideAll none (tagNames t) = none) :
    T.shown none (tagNames t) = (pieces T t).flatMap (Piece.names T) := by
  -- The induction is along the pieces; both sides have the same names at the head of the text.
  fun_induction pieces T t with
  | case1 t h =>
      rw [names_textPiece, tagNames_of_breakOn_eq_none (breakOn_of_nextOpening?_eq_none h)]
      rfl
  | case2 t before isTag inside h₁ h₂ =>
      have hne : (delimitersOf isTag).opening ++ inside ≠ [] := by
        cases isTag with
        | true => exact List.cons_ne_nil _ _
        | false => exact List.cons_ne_nil _ _
      have hnone := ht _ (List.mem_append_right _ (mem_textPiece hne))
      have hbreak := breakOn_of_unclosed h₁ hnone
      rw [List.flatMap_append, names_textPiece, names_textPiece, tagNames_of_breakOn_eq_none hbreak]
      rfl
  | case3 t before isTag inside h₁ p rest h₂ ih =>
      have hrest : ∀ q ∈ pieces T rest, q.Transparent := fun q hq =>
        ht q (List.mem_append_right _ (List.mem_cons_of_mem _ hq))
      have hp : p.Transparent := ht p (List.mem_append_right _ List.mem_cons_self)
      rcases shown_of_construct hT h₁ h₂ hp hh with ⟨hshown, hnone⟩
      rw [List.flatMap_append, names_textPiece, List.nil_append, List.flatMap_cons, hshown,
        ih hrest hnone]

/-! ## Blocks among the pieces -/

/-- An element that the first of two lists does not hold is in the second one. -/
theorem exists_of_append_eq_of_notMem {α : Type} {as bs ps qs : List α} {q : α}
    (h : as ++ bs = ps ++ q :: qs) (hq : q ∉ as) : ∃ ps', bs = ps' ++ q :: qs := by
  rcases List.append_eq_append_iff.1 h with ⟨ps', _, hbs⟩ | ⟨us, has, hbs⟩
  · exact ⟨ps', hbs⟩
  · cases us with
    | nil => exact ⟨[], hbs.symm⟩
    | cons u us =>
        cases (List.cons.inj hbs).1
        rw [has] at hq
        exact absurd (List.mem_append_right _ List.mem_cons_self) hq

/-- A tag or a block was cut off where a tag begins, and the text behind it fell into the pieces
that follow.  What holds of the text, and is handed on from a text to what is behind its first
construct, holds of the text behind. -/
theorem exists_tagPiece_of_handedOn {P : Text → Prop}
    (hstep : ∀ t before isTag inside p rest, nextOpening? t = some (before, isTag, inside) →
      constructPiece? T isTag inside = some (p, rest) → P t → P rest) (hP : P t)
    {ps qs : List Piece} {q : Piece} (h : pieces T t = ps ++ q :: qs) (htext : ∀ u, q ≠ .text u)
    (hexpression : ∀ raw, q ≠ .expression raw) :
    ∃ content rest rest', tagPiece T content rest = (q, rest') ∧ qs = pieces T rest' ∧ P rest' := by
  have hnot (u : Text) : q ∉ textPiece u := by
    intro hu
    unfold textPiece at hu
    split at hu
    · cases hu
    · exact htext u (List.mem_singleton.1 hu)
  -- The piece is no plain text, so it is the construct that was cut off, or stands behind it.
  fun_induction pieces T t generalizing ps with
  | case1 t _ =>
      have hmem : q ∈ textPiece t := by
        rw [h]
        exact List.mem_append_right _ List.mem_cons_self
      exact absurd hmem (hnot t)
  | case2 t before isTag inside _ _ =>
      rcases exists_of_append_eq_of_notMem h (hnot before) with ⟨ps', hps⟩
      have hmem : q ∈ textPiece ((delimitersOf isTag).opening ++ inside) := by
        rw [hps]
        exact List.mem_append_right _ List.mem_cons_self
      exact absurd hmem (hnot _)
  | case3 t before isTag inside h₁ p rest h₂ ih =>
      have hrest : P rest := hstep t before isTag inside p rest h₁ h₂ hP
      rcases exists_of_append_eq_of_notMem h (hnot before) with ⟨ps', hps⟩
      cases ps' with
      | nil =>
          cases hps
          rcases Option.map_eq_some_iff.1 h₂ with ⟨⟨content, r⟩, _, hpiece⟩
          cases isTag with
          | true => exact ⟨content, r, rest, hpiece, rfl, hrest⟩
          | false =>
              cases hpiece
              exact absurd rfl (hexpression _)
      | cons p' ps' => exact ih hrest (List.cons.inj hps).2

theorem exists_tagPiece_of_pieces_eq {ps qs : List Piece} {q : Piece}
    (h : pieces T t = ps ++ q :: qs)
    (htext : ∀ u, q ≠ .text u) (hexpression : ∀ raw, q ≠ .expression raw) :
    ∃ content rest rest', tagPiece T content rest = (q, rest') ∧ qs = pieces T rest' := by
  rcases exists_tagPiece_of_handedOn (P := fun _ => True)
    (fun _ _ _ _ _ _ _ _ _ => trivial) trivial h
    htext hexpression with ⟨content, rest, rest', hpiece, hqs, _⟩
  exact ⟨content, rest, rest', hpiece, hqs⟩

/-- The piece of a block was cut off where a tag opens a block. -/
theorem exists_tagPiece_of_mem_pieces {opening body closing : Text} {isVerbatim : Bool}
    (h : Piece.block opening body closing isVerbatim ∈ pieces T t) :
    ∃ content rest rest',
      tagPiece T content rest = (.block opening body closing isVerbatim, rest') := by
  rcases List.append_of_mem h with ⟨ps, qs, hsplit⟩
  rcases exists_tagPiece_of_pieces_eq hsplit (fun _ => nofun) (fun _ => nofun) with
    ⟨content, rest, rest', hpiece, _⟩
  exact ⟨content, rest, rest', hpiece⟩

/-- A tag opens a block whose end was found behind it. -/
theorem eq_of_tagPiece_block {content rest rest' : Text} {opening body closing : Text}
    {isVerbatim : Bool}
    (h : tagPiece T content rest = (.block opening body closing isVerbatim, rest')) :
    ∃ e, T.isBlockStart (Tag.nameOf content) = true ∧
      blockEnd? T (Tag.nameOf content) rest = some e ∧
      opening = Delimiters.tag.wrap content ∧ body = e.body ∧ closing = e.raw ∧
      isVerbatim = T.isVerbatim (Tag.nameOf content) := by
  simp only [tagPiece] at h
  split at h
  · next e he =>
      cases h
      by_cases hstart : T.isBlockStart (Tag.nameOf content) = true
      · rw [if_pos hstart] at he
        exact ⟨e, hstart, he, rfl, rfl, rfl, rfl⟩
      · rw [if_neg hstart] at he
        cases he
  · cases h

/-- A tag is a piece of its own if it opens no block, or no end was found behind it. -/
theorem eq_of_tagPiece_tag {content rest rest' raw : Text}
    (h : tagPiece T content rest = (.tag raw, rest')) :
    raw = Delimiters.tag.wrap content ∧ rest' = rest ∧
      (T.isBlockStart (Tag.nameOf content) = true →
        blockEnd? T (Tag.nameOf content) rest = none) := by
  simp only [tagPiece] at h
  split at h
  · cases h
  · next hnone =>
      cases h
      refine ⟨rfl, rfl, fun hstart => ?_⟩
      rwa [if_pos hstart] at hnone

/-- A tag that opens a literal block is a piece of its own only if no tag behind it closes the
block. -/
theorem notMem_tagNames_of_tag {ps qs : List Piece} {raw : Text}
    (h : pieces T t = ps ++ .tag raw :: qs)
    (hstart : T.isBlockStart (Tag.scannedName raw) = true)
    (hv : T.isVerbatim (Tag.scannedName raw) = true) :
    Tag.endOf (Tag.scannedName raw) ∉ tagNames (qs.flatMap Piece.source) := by
  rcases exists_tagPiece_of_pieces_eq h (fun _ => nofun) (fun _ => nofun) with
    ⟨content, rest, rest', hpiece, rfl⟩
  rcases eq_of_tagPiece_tag hpiece with ⟨rfl, rfl, hnone⟩
  rw [joined_pieces]
  rw [Tag.scannedName_wrap] at hstart hv ⊢
  have hend := hnone hstart
  rw [blockEnd?, if_pos hv] at hend
  intro hmem
  rcases exists_firstNamed? hmem with ⟨e, he⟩
  rw [hend] at he
  cases he

/-- A block ends with a tag that closes blocks of its type. -/
theorem nameOf_of_closing? {X : Text} {d : Nat} {hidden : Option Text} {spans : List TagSpan}
    {e : BlockEnd} (h : closing? T X d hidden spans = some e) :
    Tag.nameOf e.content = Tag.endOf X := by
  induction spans generalizing d hidden e with
  | nil => cases h
  | cons s ss ih =>
      cases hpass : T.pass X d hidden s.name with
      | none =>
          rw [closing?_cons_of_pass_eq_none hpass] at h
          cases h
          exact (TagTables.eq_of_pass_eq_none hpass).2.2
      | some r =>
          rw [closing?_cons_of_pass_eq_some hpass] at h
          rcases Option.map_eq_some_iff.1 h with ⟨e', he', rfl⟩
          have hname : Tag.nameOf e'.content = Tag.endOf X := ih he'
          exact hname

theorem nameOf_of_blockEnd? {X u : Text} {e : BlockEnd} (h : blockEnd? T X u = some e) :
    Tag.nameOf e.content = Tag.endOf X := by
  unfold blockEnd? at h
  split at h
  · rcases exists_of_firstNamed? h with ⟨pre, s, post, hat, hs, _⟩
    rw [← hs, hat.content_eq]
    rfl
  · exact nameOf_of_closing? h

/-- A block runs from a tag that opens it to one that closes it, and its body is literal text if its
type says so. -/
structure Delimited (T : TagTables) (opening closing : Text) (isVerbatim : Bool)
    (content content' : Text) : Prop where
  opening_eq : opening = Delimiters.tag.wrap content
  closing_eq : closing = Delimiters.tag.wrap content'
  isBlockStart : T.isBlockStart (Tag.nameOf content) = true
  isVerbatim_eq : isVerbatim = T.isVerbatim (Tag.nameOf content)
  nameOf_closing : Tag.nameOf content' = Tag.endOf (Tag.nameOf content)

theorem exists_delimited_of_mem_pieces {opening body closing : Text} {isVerbatim : Bool}
    (h : Piece.block opening body closing isVerbatim ∈ pieces T t) :
    ∃ content content', Delimited T opening closing isVerbatim content content' := by
  rcases exists_tagPiece_of_mem_pieces h with ⟨content, rest, rest', hpiece⟩
  rcases eq_of_tagPiece_block hpiece with ⟨e, hstart, he, hopening, _, hclosing, hverbatim⟩
  exact ⟨content, e.content, hopening, hclosing, hstart, hverbatim, nameOf_of_blockEnd? he⟩

/-- A block runs from a tag that opens it to one that closes it.  Unless its body is literal text,
the tags of the body that are not hidden are balanced, and nothing is hidden at its end. -/
structure Enclosed (T : TagTables) (opening body closing : Text) (isVerbatim : Bool)
    (content content' : Text) : Prop where
  opening_eq : opening = Delimiters.tag.wrap content
  closing_eq : closing = Delimiters.tag.wrap content'
  isBlockStart : T.isBlockStart (Tag.nameOf content) = true
  nameOf_closing : Tag.nameOf content' = Tag.endOf (Tag.nameOf content)
  hideAll_eq : isVerbatim = false → T.hideAll none (tagNames body) = none
  balanced : isVerbatim = false →
    (nameBrackets (Tag.nameOf content)).Balanced (T.shown none (tagNames body))

theorem exists_enclosed_of_mem_pieces (hT : T.LiteralBlocks) {opening body closing : Text}
    {isVerbatim : Bool} (h : Piece.block opening body closing isVerbatim ∈ pieces T t) :
    ∃ content content', Enclosed T opening body closing isVerbatim content content' := by
  rcases exists_tagPiece_of_mem_pieces h with ⟨content, rest, rest', hpiece⟩
  rcases eq_of_tagPiece_block hpiece with ⟨e, hstart, he, hopening, rfl, hclosing, hverbatim⟩
  have hname := nameOf_of_blockEnd? he
  -- A literal block ends at the first tag of its name, any other at the tag that closes it.
  have hcloses (hv : isVerbatim = false) : ∃ pre s post,
      ClosesAt T (Tag.nameOf content) 0 none (tagSpans rest) e pre s post := by
    rw [hv] at hverbatim
    rw [blockEnd?, ← hverbatim, if_neg Bool.false_ne_true] at he
    exact exists_of_closing? hT hstart hverbatim.symm (by simp) he
  refine ⟨content, e.content, hopening, hclosing, hstart, hname, ?_, ?_⟩
  · intro hv
    rcases hcloses hv with ⟨pre, s, post, hat⟩
    rw [(tagNames_of_endsAt hat.toEndsAt).2]
    exact hat.hideAll_eq
  · intro hv
    rcases hcloses hv with ⟨pre, s, post, hat⟩
    rw [(tagNames_of_endsAt hat.toEndsAt).2]
    exact Brackets.descends_zero.1 hat.descends

end LiquidMarkdown
