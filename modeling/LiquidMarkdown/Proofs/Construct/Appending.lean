import LiquidMarkdown.Proofs.Construct.Plain

/-!
# A text with more behind it

What a scan found in a text it finds with other text behind it, as far as it came.  This file
states:

* `nextOpening?_behind`, `nextOpening?_append` — the first delimiter, behind the text and in it;
* `blockEnd?_upTo`, `blockEnd?_append` — the end of a block that was found;
* `tagNames_append_split` — the tags up to one that was found;
* `tagNames_append` — the tags of a text that hides none, and of what stands behind it;
* `eq_endOf_of_closing?_concat` — a tag more ends a block only if it is named for that;
* `countP_closes_le_of_closing?` — a block without an end is closed no more often than opened.
-/

namespace LiquidMarkdown

variable {T : TagTables} {t u before inside : Text} {isTag : Bool}

/-! ## The first delimiter -/

/-- Every delimiter begins with a brace. -/
theorem opensTag?_eq_none_of_ne {c : Char} (hc : c ≠ '{') (cs : Text) :
    opensTag? (c :: cs) = none := by
  cases ho : opensTag? (c :: cs) with
  | none => rfl
  | some r =>
      rcases r with ⟨b, rest⟩
      have heq := opensTag?_eq_some_iff.1 ho
      cases b with
      | true =>
          cases heq
          exact absurd rfl hc
      | false =>
          cases heq
          exact absurd rfl hc

/-- Two characters tell whether a delimiter starts here. -/
theorem opensTag?_append_eq_none {c d : Char} {cs : Text} (h : opensTag? (c :: d :: cs) = none)
    (u : Text) : opensTag? (c :: d :: (cs ++ u)) = none := by
  cases ho : opensTag? (c :: d :: (cs ++ u)) with
  | none => rfl
  | some r =>
      rcases r with ⟨b, rest⟩
      have heq := opensTag?_eq_some_iff.1 ho
      have hshort : c :: d :: cs = (delimitersOf b).opening ++ cs := by
        cases b with
        | true =>
            cases heq
            rfl
        | false =>
            cases heq
            rfl
      rw [opensTag?_eq_some_iff.2 hshort] at h
      cases h

/-- Behind a text that opens nothing and does not end with a brace, the first delimiter is the one
that stands there. -/
theorem nextOpening?_behind (h : nextOpening? t = none) (hlast : t.getLast? ≠ some '{')
    (isTag : Bool) (inside : Text) :
    nextOpening? (t ++ ((delimitersOf isTag).opening ++ inside)) = some (t, isTag, inside) := by
  induction t with
  | nil => exact nextOpening?_opening isTag inside
  | cons c cs ih =>
      rcases nextOpening?_cons_eq_none_iff.1 h with ⟨ho, hcs⟩
      have hhere : opensTag? (c :: (cs ++ ((delimitersOf isTag).opening ++ inside))) = none := by
        cases cs with
        | nil => exact opensTag?_eq_none_of_ne (fun hc => hlast (by rw [hc]; rfl)) _
        | cons d cs => exact opensTag?_append_eq_none ho _
      have hlast' : cs.getLast? ≠ some '{' := by
        cases cs with
        | nil => exact (Option.some_ne_none _).symm
        | cons d cs => simpa using hlast
      exact nextOpening?_later hhere (ih hcs hlast')

/-- The first delimiter of a text is the first one with any text behind it. -/
theorem nextOpening?_append (h : nextOpening? t = some (before, isTag, inside)) (u : Text) :
    nextOpening? (t ++ u) = some (before, isTag, inside ++ u) := by
  have ht : t ++ u = before ++ ((delimitersOf isTag).opening ++ (inside ++ u)) := by
    rw [eq_of_nextOpening? h]
    simp only [List.append_assoc]
  rw [ht]
  exact nextOpening?_behind (nextOpening?_before h) (getLast?_before_ne h) isTag (inside ++ u)

/-- A text with a delimiter in it opens something. -/
theorem nextOpening?_ne_none (v : Text) (isTag : Bool) (inside : Text) :
    nextOpening? (v ++ ((delimitersOf isTag).opening ++ inside)) ≠ none := by
  induction v with
  | nil =>
      rw [List.nil_append, nextOpening?_opening]
      exact Option.some_ne_none _
  | cons c v ih =>
      rw [List.cons_append, nextOpening?]
      split
      · exact Option.some_ne_none _
      · rw [ne_eq, Option.map_eq_none_iff]
        exact ih

/-- A text that opens nothing does so up to any of its characters. -/
theorem nextOpening?_eq_none_of_append (h : nextOpening? (t ++ u) = none) :
    nextOpening? t = none := by
  cases ht : nextOpening? t with
  | none => rfl
  | some r =>
      rcases r with ⟨before, isTag, inside⟩
      rw [nextOpening?_append ht u] at h
      cases h

/-! ## The ends of blocks -/

theorem TagSpan.first?_append_behind {s : TagSpan} (h : TagSpan.first? t = some s) (u : Text) :
    TagSpan.first? (t ++ u) = some ⟨s.before, s.content, s.rest ++ u⟩ := by
  have hlong := TagSpan.first?_append h (s.rest ++ u)
  rwa [← List.append_assoc, ← TagSpan.eq_of_first? h] at hlong

/-- The end with more text behind it. -/
def BlockEnd.withBehind (u : Text) (e : BlockEnd) : BlockEnd :=
  { e with rest := e.rest ++ u }

/-- The first tag of a text, and those behind it. -/
theorem tagSpans_append {s : TagSpan} {ss : List TagSpan} (h : tagSpans t = s :: ss) (u : Text) :
    tagSpans (t ++ u) = ⟨s.before, s.content, s.rest ++ u⟩ :: tagSpans (s.rest ++ u) :=
  tagSpans_of_first?_eq_some (TagSpan.first?_append_behind (tagSpans_cons h).1 u)

/-- Up to its first tag, a text may have any other text behind that tag. -/
theorem tagSpans_upTo {s : TagSpan} (h : TagSpan.first? t = some s) (u : Text) :
    tagSpans (s.before ++ s.raw ++ u) = ⟨s.before, s.content, u⟩ :: tagSpans u :=
  tagSpans_of_first?_eq_some (TagSpan.first?_append h u)

/-- The body that a tag is put before, with any text behind its end. -/
theorem BlockEnd.after_upTo (s : TagSpan) (e : BlockEnd) (u : Text) :
    (e.after s).body ++ (e.after s).raw ++ u = s.before ++ s.raw ++ (e.body ++ e.raw ++ u) := by
  simp [after, raw]

theorem firstNamed?_upTo {name : Text} {e : BlockEnd}
    (h : firstNamed? name (tagSpans t) = some e) (u : Text) :
    firstNamed? name (tagSpans (e.body ++ e.raw ++ u)) = some { e with rest := u } := by
  generalize hs : tagSpans t = spans at h
  induction spans generalizing t e with
  | nil => cases h
  | cons s ss ih =>
      rcases tagSpans_cons hs with ⟨hfirst, hrest⟩
      simp only [firstNamed?] at h
      by_cases hname : s.name = name
      · rw [if_pos hname] at h
        cases h
        calc
          firstNamed? name (tagSpans (s.before ++ s.raw ++ u))
              = firstNamed? name (⟨s.before, s.content, u⟩ :: tagSpans u) := by
                rw [tagSpans_upTo hfirst]
          _ = some ⟨s.before, s.content, u⟩ := if_pos hname
      · rw [if_neg hname] at h
        rcases Option.map_eq_some_iff.1 h with ⟨e', he', rfl⟩
        -- The tag is passed over with any text behind it, and the search goes on in that text.
        have htail := ih hrest he'
        have hpassed : TagSpan.name ⟨s.before, s.content, e'.body ++ e'.raw ++ u⟩ ≠ name := hname
        rw [BlockEnd.after_upTo, tagSpans_upTo hfirst, firstNamed?, if_neg hpassed, htail]
        rfl

theorem closing?_upTo {name : Text} {d : Nat} {hidden : Option Text} {e : BlockEnd}
    (h : closing? T name d hidden (tagSpans t) = some e) (u : Text) :
    closing? T name d hidden (tagSpans (e.body ++ e.raw ++ u)) = some { e with rest := u } := by
  generalize hs : tagSpans t = spans at h
  induction spans generalizing t e d hidden with
  | nil => cases h
  | cons s ss ih =>
      rcases tagSpans_cons hs with ⟨hfirst, hrest⟩
      cases hpass : T.pass name d hidden s.name with
      | none =>
          rw [closing?_cons_of_pass_eq_none hpass] at h
          cases h
          calc
            closing? T name d hidden (tagSpans (s.before ++ s.raw ++ u))
                = closing? T name d hidden (⟨s.before, s.content, u⟩ :: tagSpans u) := by
                  rw [tagSpans_upTo hfirst]
            _ = some ⟨s.before, s.content, u⟩ := closing?_cons_of_pass_eq_none hpass
      | some r =>
          rw [closing?_cons_of_pass_eq_some hpass] at h
          rcases Option.map_eq_some_iff.1 h with ⟨e', he', rfl⟩
          have htail := ih hrest he'
          have hcut : closing? T name d hidden
              (⟨s.before, s.content, e'.body ++ e'.raw ++ u⟩ :: tagSpans (e'.body ++ e'.raw ++ u)) =
                (closing? T name r.1 r.2 (tagSpans (e'.body ++ e'.raw ++ u))).map
                  (.after ⟨s.before, s.content, e'.body ++ e'.raw ++ u⟩) :=
            closing?_cons_of_pass_eq_some hpass
          rw [BlockEnd.after_upTo, tagSpans_upTo hfirst, hcut, htail]
          rfl

/-- The end of a block that was found is found with any other text behind it. -/
theorem blockEnd?_upTo {name : Text} {e : BlockEnd} (h : blockEnd? T name t = some e) (u : Text) :
    blockEnd? T name (e.body ++ e.raw ++ u) = some { e with rest := u } := by
  unfold blockEnd? at h ⊢
  split at h
  · next hv =>
      rw [if_pos hv]
      exact firstNamed?_upTo h u
  · next hv =>
      rw [if_neg hv]
      exact closing?_upTo h u

/-- The end of a block that was found is found with more text behind it. -/
theorem blockEnd?_append {name : Text} {e : BlockEnd} (h : blockEnd? T name t = some e) (u : Text) :
    blockEnd? T name (t ++ u) = some (e.withBehind u) := by
  have hlong := blockEnd?_upTo h (e.rest ++ u)
  rwa [← List.append_assoc, ← eq_of_blockEnd? h] at hlong

/-- A block that has no end has none with less text behind its opening tag. -/
theorem blockEnd?_eq_none_of_append {name : Text} (h : blockEnd? T name (t ++ u) = none) :
    blockEnd? T name t = none := by
  cases he : blockEnd? T name t with
  | none => rfl
  | some e =>
      rw [blockEnd?_append he u] at h
      cases h

/-- The piece that a construct begins stays with more text behind it, unless it is a tag that finds
its end there. -/
theorem constructPiece?_append {p : Piece} {rest : Text}
    (h : constructPiece? T isTag inside = some (p, rest)) (u : Text) :
    (constructPiece? T isTag (inside ++ u) = some (p, rest ++ u) ∧
      ∀ raw, p = .tag raw → T.isBlockStart (Tag.scannedName raw) = true →
        blockEnd? T (Tag.scannedName raw) (rest ++ u) = none) ∨
    ∃ raw e, p = .tag raw ∧ T.isBlockStart (Tag.scannedName raw) = true ∧
      blockEnd? T (Tag.scannedName raw) (rest ++ u) = some e ∧
      constructPiece? T isTag (inside ++ u) =
        some (.block raw e.body e.raw (T.isVerbatim (Tag.scannedName raw)), e.rest) := by
  rcases Option.map_eq_some_iff.1 h with ⟨⟨content, r⟩, hb, hpiece⟩
  have hclosing : (delimitersOf isTag).closing ≠ [] := by
    cases isTag <;> exact List.cons_ne_nil _ _
  have hlong := Text.breakOn_append hb hclosing u
  cases isTag with
  | false =>
      cases hpiece
      refine .inl ⟨?_, fun raw hraw => by cases hraw⟩
      rw [constructPiece?, hlong]
      rfl
  | true =>
      have hpieceLong :
          constructPiece? T true (inside ++ u) = some (tagPiece T content (r ++ u)) := by
        rw [constructPiece?, hlong]
        rfl
      have hscanned := Tag.scannedName_wrap content
      rw [hpieceLong]
      simp only [if_true, tagPiece] at hpiece ⊢
      -- Only a tag that may open a block looks at what is behind it: it keeps the end that it
      -- found, and one without an end may find it in the text behind.
      by_cases hstart : T.isBlockStart (Tag.nameOf content) = true
      · rw [if_pos hstart] at hpiece ⊢
        cases he : blockEnd? T (Tag.nameOf content) r with
        | some e =>
            rw [he] at hpiece
            cases hpiece
            rw [blockEnd?_append he u]
            exact .inl ⟨rfl, fun raw hraw => by cases hraw⟩
        | none =>
            rw [he] at hpiece
            cases hpiece
            cases hlate : blockEnd? T (Tag.nameOf content) (rest ++ u) with
            | none =>
                refine .inl ⟨rfl, fun raw hraw _ => ?_⟩
                cases hraw
                rw [hscanned, hlate]
            | some e =>
                refine .inr ⟨_, e, rfl, ?_, ?_, ?_⟩
                · rw [hscanned, hstart]
                · rw [hscanned, hlate]
                · rw [hscanned]
      · rw [if_neg hstart] at hpiece ⊢
        cases hpiece
        refine .inl ⟨rfl, fun raw hraw hstart' => ?_⟩
        cases hraw
        rw [hscanned] at hstart'
        exact absurd hstart' hstart

/-! ## Names -/

/-- The tags of a text up to one of them do not depend on what stands behind the text. -/
theorem tagNames_append_split {pre post : List TagSpan} {s : TagSpan}
    (h : tagSpans t = pre ++ s :: post) (u : Text) :
    tagNames (t ++ u) = pre.map TagSpan.name ++ s.name :: tagNames (s.rest ++ u) := by
  induction pre generalizing t with
  | nil =>
      rw [tagNames, tagSpans_append h, List.map_cons]
      rfl
  | cons s₀ pre ih =>
      rw [tagNames, tagSpans_append h, List.map_cons, List.map_cons, List.cons_append]
      exact congrArg _ (ih (tagSpans_cons h).2)

/-- Behind a text that holds no delimiter and does not end with a brace, the tags are those of what
stands there. -/
theorem tagNames_append_of_breakOn (h : Text.breakOn Delimiters.tag.opening t = none)
    (hlast : t.getLast? ≠ some '{') (u : Text) : tagNames (t ++ u) = tagNames u := by
  have hcut := Text.breakOn_of_breakOn_eq_none (u := u) h fun c hc d _ hcd => by
    rw [hcd.1] at hc
    exact hlast hc
  exact tagNames_of_breakOn hcut

/-- A tag that was found is closed by the first delimiter that can close it. -/
theorem breakOn_content_of_mem_tagSpans {s : TagSpan} (h : s ∈ tagSpans t) :
    Text.breakOn Delimiters.tag.closing (s.content ++ Delimiters.tag.closing) =
      some (s.content, []) := by
  rcases List.append_of_mem h with ⟨pre, post, hsplit⟩
  have hfirst : ∃ u, TagSpan.first? u = some s := by
    clear h
    induction pre generalizing t with
    | nil => exact ⟨t, (tagSpans_cons hsplit).1⟩
    | cons s₀ pre ih => exact ih (tagSpans_cons hsplit).2
  rcases hfirst with ⟨u, hu⟩
  rcases TagSpan.first?_eq_some_iff.1 hu with ⟨inside, _, hclosing⟩
  simpa using Text.breakOn_of_append hclosing (by decide) []

/-- A tag that stands alone is the one tag of its text. -/
theorem tagNames_wrap {content : Text}
    (h : Text.breakOn Delimiters.tag.closing (content ++ Delimiters.tag.closing) =
      some (content, [])) : tagNames (Delimiters.tag.wrap content) = [Tag.nameOf content] := by
  have hfirst : TagSpan.first? (Delimiters.tag.wrap content) = some ⟨[], content, []⟩ := by
    refine TagSpan.first?_eq_some_iff.2 ⟨content ++ Delimiters.tag.closing, ?_, h⟩
    rw [Delimiters.wrap, List.append_assoc]
    rfl
  rw [tagNames_of_first?_eq_some hfirst, tagNames_of_breakOn_eq_none rfl]
  rfl

theorem exists_endsAt_of_blockEnd? (hT : T.LiteralBlocks) {X : Text} (hX : T.isBlockStart X = true)
    {e : BlockEnd} (h : blockEnd? T X t = some e) :
    ∃ pre s post, EndsAt (tagSpans t) e pre s post := by
  unfold blockEnd? at h
  split at h
  · rcases exists_of_firstNamed? h with ⟨pre, s, post, hat, _, _⟩
    exact ⟨pre, s, post, hat⟩
  · next hv =>
      rcases exists_of_closing? hT hX (Bool.eq_false_iff.2 hv) (by simp) h with ⟨pre, s, post, hat⟩
      exact ⟨pre, s, post, hat.toEndsAt⟩

theorem getLast?_ne_of_append {rest : Text} (h : (t ++ rest).getLast? ≠ some '{') :
    rest.getLast? ≠ some '{' := by
  intro hr
  rw [List.getLast?_append, hr] at h
  exact h rfl

/-- The tags of a text whose pieces hide none, with more text behind it, are its own and those of
what stands there. -/
theorem tagNames_append (hT : T.LiteralBlocks) (ht : ∀ p ∈ pieces T t, p.Transparent)
    (hlast : t.getLast? ≠ some '{') (u : Text) : tagNames (t ++ u) = tagNames t ++ tagNames u := by
  fun_induction pieces T t with
  | case1 t h =>
      have hbreak := breakOn_of_nextOpening?_eq_none h
      rw [tagNames_append_of_breakOn hbreak hlast, tagNames_of_breakOn_eq_none hbreak]
      rfl
  | case2 t before isTag inside h₁ h₂ =>
      have hne := opening_append_ne_nil isTag inside
      have hbreak := breakOn_of_unclosed h₁ (ht _ (List.mem_append_right _ (mem_textPiece hne)))
      rw [tagNames_append_of_breakOn hbreak hlast, tagNames_of_breakOn_eq_none hbreak]
      rfl
  | case3 t before isTag inside h₁ p rest h₂ ih =>
      have hp : p.Transparent := ht p (List.mem_append_right _ List.mem_cons_self)
      have hrest : tagNames (rest ++ u) = tagNames rest ++ tagNames u := by
        refine ih (fun q hq => ht q (List.mem_append_right _ (List.mem_cons_of_mem _ hq))) ?_
        rw [eq_of_nextOpening? h₁, List.append_assoc, eq_of_constructPiece? h₂] at hlast
        exact getLast?_ne_of_append (getLast?_ne_of_append hlast)
      rcases Option.map_eq_some_iff.1 h₂ with ⟨⟨content, r⟩, hb, hpiece⟩
      cases isTag with
      | false =>
          -- An expression has no tags, with more text behind it as without.
          cases hpiece
          have hnames : tagNames t = tagNames rest :=
            tagNames_of_breakOn (breakOn_of_expression h₁ hb hp)
          have hlong : tagNames (t ++ u) = tagNames (rest ++ u) :=
            tagNames_of_breakOn (breakOn_of_expression (nextOpening?_append h₁ u)
              (Text.breakOn_append hb (by decide) u) hp)
          rw [hnames, hlong, hrest]
      | true =>
          have hfirst : TagSpan.first? t = some ⟨before, content, r⟩ :=
            TagSpan.first?_eq_some_iff.2 ⟨inside, breakOn_of_nextOpening?_tag h₁, hb⟩
          have hnames : tagNames t = Tag.nameOf content :: tagNames r :=
            tagNames_of_first?_eq_some hfirst
          have hlong : tagNames (t ++ u) = Tag.nameOf content :: tagNames (r ++ u) :=
            tagNames_of_first?_eq_some (TagSpan.first?_append_behind hfirst u)
          have hbehind : tagNames (r ++ u) = tagNames r ++ tagNames u := by
            simp only [if_true, tagPiece] at hpiece
            split at hpiece
            · next e he =>
                cases hpiece
                by_cases hstart : T.isBlockStart (Tag.nameOf content) = true
                · rw [if_pos hstart] at he
                  rcases exists_endsAt_of_blockEnd? hT hstart he with ⟨pre, s, post, hat⟩
                  rw [tagNames_append_split hat.spans_eq, ← hat.rest_eq, hrest,
                    (tagNames_of_endsAt hat).1]
                  simp
                · rw [if_neg hstart] at he
                  cases he
            · cases hpiece
              exact hrest
          rw [hnames, hlong, hbehind, List.cons_append]

/-- A tag more ends a block, which had no end before, only if its name says so. -/
theorem eq_endOf_of_closing?_concat {name m : Text} {d : Nat} {hidden : Option Text}
    {spans spans' : List TagSpan} {e : BlockEnd}
    (hnames : spans'.map TagSpan.name = spans.map TagSpan.name ++ [m])
    (hnone : closing? T name d hidden spans = none)
    (h : closing? T name d hidden spans' = some e) : m = Tag.endOf name := by
  -- Both searches go on alike as long as there are tags in both, so only the last tag can end the
  -- block.
  induction spans generalizing spans' d hidden e with
  | nil =>
      rcases List.map_eq_singleton_iff.1 hnames with ⟨s, rfl, rfl⟩
      cases hpass : T.pass name d hidden s.name with
      | none => exact (TagTables.eq_of_pass_eq_none hpass).2.2
      | some r =>
          rw [closing?_cons_of_pass_eq_some hpass] at h
          cases h
  | cons s ss ih =>
      cases spans' with
      | nil => cases hnames
      | cons s' ss' =>
          rw [List.map_cons, List.map_cons, List.cons_append, List.cons.injEq] at hnames
          rcases hnames with ⟨hs, hrest⟩
          cases hpass : T.pass name d hidden s.name with
          | none =>
              rw [closing?_cons_of_pass_eq_none hpass] at hnone
              cases hnone
          | some r =>
              rw [closing?_cons_of_pass_eq_some hpass] at hnone
              rw [← hs] at hpass
              rw [closing?_cons_of_pass_eq_some hpass] at h
              rcases Option.map_eq_some_iff.1 h with ⟨e', he', _⟩
              exact ih hrest (Option.map_eq_none_iff.1 hnone) he'

/-- The tags of a block that has no end close it no more often than they open it. -/
theorem countP_closes_le_of_closing? (hT : T.LiteralBlocks) {X : Text}
    (hX : T.isBlockStart X = true) (hXv : T.isVerbatim X = false) {d : Nat} {hidden : Option Text}
    {spans : List TagSpan} (hhidden : ∀ v ∈ hidden, T.isVerbatim v = true)
    (h : closing? T X d hidden spans = none) :
    (T.shown hidden (spans.map TagSpan.name)).countP (nameBrackets X).closes ≤
      (T.shown hidden (spans.map TagSpan.name)).countP (nameBrackets X).opens + d := by
  induction spans generalizing d hidden with
  | nil => simp [TagTables.shown]
  | cons s ss ih =>
      cases hpass : T.pass X d hidden s.name with
      | none =>
          rw [closing?_cons_of_pass_eq_none hpass] at h
          cases h
      | some r =>
          rcases r with ⟨d', hidden'⟩
          rw [closing?_cons_of_pass_eq_some hpass] at h
          rcases TagTables.of_pass_eq_some hT hX hXv hhidden hpass with ⟨rfl, hcounts⟩
          have hrest :=
            ih (TagTables.isVerbatim_of_hide hhidden s.name) (Option.map_eq_none_iff.1 h)
          rw [List.map_cons]
          -- A hidden tag is not counted, and any other one changes the depth as brackets do.
          rcases hcounts with ⟨rfl, v, hv, hs⟩ | ⟨hs, hchanges⟩
          · rw [TagTables.shown_cons_of_hidden hv hs]
            exact hrest
          · have hcount := hchanges.countP_cons
              (T.shown (T.hide hidden s.name) (ss.map TagSpan.name))
            rw [TagTables.shown_cons hs]
            omega

end LiquidMarkdown
