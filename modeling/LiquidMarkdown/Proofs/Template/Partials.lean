import LiquidMarkdown.Proofs.Template.Alike
import LiquidMarkdown.Proofs.Template.Expressions
import LiquidMarkdown.Proofs.Template.Tags

/-!
# Partial templates

A partial template is included or rendered.  The words differ in length, so that what stands behind
them stands at other offsets; nothing but the place of a stray character depends on those.  This
file defines:

* `Grammar.FirstBy` — statements of which only the first ones differ, in a given way;
* `Grammar.SameCall` — calls of two functions with the same arguments.

The two tags are read alike: as calls of their functions with the same arguments, or as problems of
one kind (`parse_include_render`).
-/

namespace LiquidMarkdown
namespace Template

/-! ## A tag that begins with a word -/

section Words

variable {w : Text}

theorem dropFinalNewline_append {u : Text} (h : u.getLast? ≠ some '\n') (t : Text) :
    dropFinalNewline (u ++ t) = u ++ dropFinalNewline t := by
  unfold dropFinalNewline
  cases ht : t.getLast? with
  | none =>
      rw [List.getLast?_eq_none_iff.1 ht, List.append_nil, if_neg h, if_neg (by simp),
        List.append_nil]
  | some c =>
      have hne : t ≠ [] := by
        rintro rfl
        cases ht
      rw [List.getLast?_append, ht, Option.some_or]
      split
      · rw [List.dropLast_append_of_ne_nil hne]
      · rfl

/-- A word alone begins no tag of lines, unless it is the one for that. -/
theorem lineTagsAt_word (hw : ∀ c ∈ w, Unicode.isWord c = true) (hne : w ≠ [])
    (hliquid : w ≠ ("liquid" : Text)) (x : Text) :
    lineTagsAt ('{' :: '%' :: ' ' :: (w ++ ' ' :: x)) = none := by
  have hopen : Text.dropPrefix? ['{', '%'] ('{' :: '%' :: ' ' :: (w ++ ' ' :: x)) =
      some (' ' :: (w ++ ' ' :: x)) := rfl
  have hdash : takeDash (' ' :: (w ++ ' ' :: x)) = ([], ' ' :: (w ++ ' ' :: x)) := rfl
  have htrim : Text.trimStart (' ' :: (w ++ ' ' :: x)) = w ++ ' ' :: x :=
    trimStart_word hw hne (' ' :: x)
  rw [lineTagsAt_eq, hopen, Option.bind_some, hdash, htrim, dropWord?_append (by decide),
    dropWord?_eq_none hw hliquid]
  rfl

theorem expandLineTags_word (hw : ∀ c ∈ w, Unicode.isWord c = true) (hne : w ≠ [])
    (hliquid : w ≠ ("liquid" : Text)) (x : Text) :
    expandLineTags ('{' :: '%' :: ' ' :: (w ++ ' ' :: x)) =
      '{' :: '%' :: ' ' :: (w ++ ' ' :: expandLineTags x) := by
  have hbrace : '{' ∉ ['%', ' '] ++ w ++ [' '] := by
    have hmem : '{' ∉ w := fun hmem => absurd (hw _ hmem) (by decide)
    simp [hmem]
  have hpass := opens_lineTagsAt.rewriteAll_append hbrace x
  refine (rewriteAll_of_none (lineTagsAt_word hw hne hliquid x)).trans (congrArg ('{' :: ·) ?_)
  simpa [expandLineTags] using hpass

/-- Words and blanks behind the opening of a tag are passed over, and nothing depends on them. -/
theorem callFilters_quiet {u : Text} (hu : Quiet u) (x : Text) :
    callFilters ('{' :: '%' :: ' ' :: (u ++ x)) =
      '{' :: '%' :: ' ' :: (u ++ (behindOpening x).getD (callFilters x)) := by
  have hspace : Quiet (' ' :: u) := List.forall_mem_cons.2 ⟨.inr rfl, hu⟩
  have hbehind := hspace.behindOpening_append x
  have hopen : openAt? ('{' :: '%' :: ' ' :: (u ++ x)) = some (['{', '%'], ' ' :: (u ++ x)) := rfl
  cases hx : behindOpening x with
  | some y =>
      rw [hx] at hbehind
      exact callFilters_of_openAt? hopen hbehind
  | none =>
      have hnone : constructAt ('{' :: '%' :: ' ' :: (u ++ x)) = none := by
        rw [hx, Option.map_none, behindOpening, Option.map_eq_none_iff] at hbehind
        rw [List.cons_append] at hbehind
        rw [constructAt_eq, hopen, Option.bind_some]
        dsimp only
        rw [hbehind]
        rfl
      have hbrace : '{' ∉ ['%', ' '] ++ u := by
        have hmem : '{' ∉ u := fun hmem => hu.ne hmem (by decide) rfl
        simp [hmem]
      have hpass := opens_constructAt.rewriteAll_append hbrace x
      refine (rewriteAll_of_none hnone).trans (congrArg ('{' :: ·) ?_)
      simpa [callFilters] using hpass

/-- What stands behind the word of a tag is rewritten alike behind every word, but for the one for a
tag of lines. -/
theorem exists_prepare_word (x : Text) :
    ∃ y, ∀ w : Text, (∀ c ∈ w, Unicode.isWord c = true) → w ≠ [] →
    w ≠ ("liquid" : Text) →
    prepare (wrapTag (w ++ ' ' :: x)) = '{' :: '%' :: ' ' :: (renamedWord w ++ ' ' :: y) := by
  generalize hz : renameIncludes (expandLineTags (x ++ [' ', '%', '}'])) = z
  refine ⟨(behindOpening z).getD (callFilters z), fun w hw hne hliquid => ?_⟩
  have htag :
      wrapTag (w ++ ' ' :: x) = '{' :: '%' :: ' ' :: (w ++ ' ' :: (x ++ [' ', '%', '}'])) := by
    simp [wrapTag]
  have hquiet : Quiet (renamedWord w ++ [' ']) := by
    intro c hc
    rcases List.mem_append.1 hc with hc | hc
    · exact .inl (isWord_renamedWord hw c hc)
    · exact .inr (by rw [List.mem_singleton.1 hc]; rfl)
  have hcalls := callFilters_quiet hquiet z
  rw [prepare, htag, expandLineTags_word hw hne hliquid, renameIncludes_word hw hne, hz]
  simpa using hcalls

/-- A word behind a space is the next token in a tag. -/
theorem scan_inside_word (hw : ∀ c ∈ w, Unicode.isWord c = true) (hne : w ≠ [])
    (hname : lexemeAt false [] w = (.name w, [], [])) {c : Cursor} {t : Text}
    (hc : c.rest = ' ' :: (w ++ ' ' :: t)) :
    ∃ d : Cursor, d.line = c.line ∧ d.rest = ' ' :: t ∧ d.previous ≠ '.' ∧
      c.scan (.inside .block []) = ⟨c.line, .name w⟩ :: d.scan (.inside .block []) := by
  have hnot {x : Char} (hx : Unicode.isWord x = false) : x ∉ w := fun hmem => by
    rw [hw x hmem] at hx
    cases hx
  have htrim := trimStart_word hw hne (' ' :: t)
  have hblank : Text.isBlank ' ' = true := rfl
  have hstays : Stays [] c.rest := hc ▸ fun _ => rfl
  have hspace := Cursor.insideStep_cons hc hstays
  rw [if_pos hblank, htrim] at hspace
  have hc' : c.rest = [' '] ++ (w ++ ' ' :: t) := hc
  have hline := Cursor.line_moveTo hc' (by decide)
  have hprevious := Cursor.previous_of_blanks hc rfl
  rw [htrim] at hprevious
  -- The place behind the space, and the step over the word from there.
  generalize hd : c.moveTo (w ++ ' ' :: t) = d at hline hprevious
  have hrest : d.rest = w ++ ' ' :: t := hd ▸ rfl
  obtain ⟨x, xs, rfl⟩ := List.exists_cons_of_ne_nil hne
  have hlexeme : d.lexeme [] = (.name (x :: xs), [], ' ' :: t) := by
    refine (Cursor.lexeme_eq_iff rfl).2 ?_
    rw [decide_eq_false hprevious, hrest]
    exact lexemeAt_append hname rfl t
  have hgoes : Stays [] d.rest := hrest ▸ fun _ => blockEnd?_word hw
  have hword := Cursor.insideStep_cons hrest hgoes
  rw [hlexeme, Unicode.isBlank_of_isWord (hw x List.mem_cons_self)] at hword
  have hpassed := Cursor.getLast?_passed hrest hne
  refine ⟨d.moveTo (' ' :: t), ?_, rfl, fun hpoint => ?_, ?_⟩
  · rw [Cursor.line_moveTo hrest (hnot (by decide)), hline]
  · rw [hpoint] at hpassed
    exact hnot (by decide) (List.mem_of_getLast? hpassed)
  · rw [Cursor.scan_inside hspace, hd, Cursor.scan_inside hword, hline]
    rfl

/-- Behind the word of a tag, the tokens are those of what follows it, from some place on the first
line. -/
theorem exists_tokens_word (hw : ∀ c ∈ w, Unicode.isWord c = true) (hne : w ≠ [])
    (hname : lexemeAt false [] w = (.name w, [], []))
    (hraw : ∀ y, Delimiter.rawBegin? (' ' :: (w ++ ' ' :: y)) = none) (y : Text) :
    ∃ d : Cursor, d.line = 1 ∧ d.rest = ' ' :: dropFinalNewline (Text.normalizeNewlines y) ∧
      d.previous ≠ '.' ∧ tokens ('{' :: '%' :: ' ' :: (w ++ ' ' :: y)) =
        ⟨1, .blockBegin⟩ :: ⟨1, .name w⟩ :: closeTokens (d.scan (.inside .block [])) := by
  have htext : dropFinalNewline (Text.normalizeNewlines ('{' :: '%' :: ' ' :: (w ++ ' ' :: y))) =
      '{' :: '%' :: ' ' :: (w ++ ' ' :: dropFinalNewline (Text.normalizeNewlines y)) := by
    have hreturn : '\r' ∉ ['{', '%', ' '] ++ w ++ [' '] := by
      have hmem : '\r' ∉ w := fun hmem => absurd (hw _ hmem) (by decide)
      simp [hmem]
    have hlast : (['{', '%', ' '] ++ w ++ [' ']).getLast? ≠ some '\n' := by
      rw [List.getLast?_concat]
      decide
    have h := congrArg dropFinalNewline (normalizeNewlines_append hreturn y)
    rw [dropFinalNewline_append hlast] at h
    simpa using h
  generalize dropFinalNewline (Text.normalizeNewlines y) = y' at htext ⊢
  generalize hstart : Cursor.start ('{' :: '%' :: ' ' :: (w ++ ' ' :: y')) = c
  have hrest : c.rest = ['{', '%'] ++ ' ' :: (w ++ ' ' :: y') := hstart ▸ rfl
  have hline : (c.moveTo (' ' :: (w ++ ' ' :: y'))).line = 1 :=
    (Cursor.line_moveTo hrest (by decide)).trans (hstart ▸ rfl)
  obtain ⟨d, hdline, hdrest, hdpoint, hscan⟩ := scan_inside_word hw hne hname
    (c := c.moveTo (' ' :: (w ++ ' ' :: y'))) rfl
  refine ⟨d, hdline.trans hline, hdrest, hdpoint, ?_⟩
  have hone : c.line = 1 := hstart ▸ rfl
  rw [tokens, htext, hstart, scan_tag rfl (hraw y') hrest, hscan, hline, hone,
    closeTokens_cons_line_one rfl, closeTokens_cons_line_one rfl]

end Words

/-! ## Statements of which the first differ -/

namespace Grammar

open Parse Law

variable {S : Stmt → Stmt → Prop}

/-- Statements of which only the first ones differ, in the given way. -/
def FirstBy (S : Stmt → Stmt → Prop) (l l' : List Stmt) : Prop :=
  ∃ s s' more, S s s' ∧ l = s :: more ∧ l' = s' :: more

theorem FirstBy.append {l l' : List Stmt} (h : FirstBy S l l') (more : List Stmt) :
    FirstBy S (l ++ more) (l' ++ more) := by
  obtain ⟨s, s', before, hs, rfl, rfl⟩ := h
  exact ⟨s, s', before ++ more, hs, rfl, rfl⟩

/-- The same for statements with what was printed behind them. -/
structure Collected.FirstBy (S : Stmt → Stmt → Prop) (a b : Collected) : Prop where
  done : Grammar.FirstBy S a.done b.done
  parts : a.parts = b.parts

theorem Collected.FirstBy.flush {a b : Collected} (h : Collected.FirstBy S a b) :
    Grammar.FirstBy S a.flush b.flush := by
  unfold Collected.flush
  rw [h.parts]
  split
  · exact h.done
  · exact h.done.append _

/-- Readers for bodies agree in all contexts. -/
theorem agree_bodyOf_below (n : Nat) (c c' : Context) (ends : List Text) (take : Bool) :
    agreeLaw.Rel (bodyOf (below bodyRule n) c ends take)
      (bodyOf (below bodyRule n) c' ends take) := by
  refine rel_bodyOf (fun c c' ends => ?_) c c' ends take
  exact Agree.below (S := SameEnds) (fun inner inner' h => rel_bodyRule (L := agreeLaw) h) n rfl

/-- A round goes on behind different first statements alike. -/
theorem agree_contentsRound (n : Nat) (c : Context) (ends : Option (List Text)) {a b : Collected}
    (h : Collected.FirstBy S a b) : Agree (Sum.LiftRel (Collected.FirstBy S) (FirstBy S))
      (contentsRound (bodyOf (below bodyRule n)) c ends a)
      (contentsRound (bodyOf (below bodyRule n)) c ends b) := by
  refine Agree.bind_eq (Rel.kind (L := agreeLaw)) fun k => ?_
  split
  · exact .pure (.inr h.flush)
  · exact .bind_eq .advance fun _ => .pure (.inl ⟨h.done, by rw [h.parts]⟩)
  · exact .bind_eq .advance fun _ => .bind_eq (rel_tuple (L := agreeLaw)) fun _ =>
      .bind_eq (Rel.expect (L := agreeLaw) _) fun _ => .pure (.inl ⟨h.done, by rw [h.parts]⟩)
  · refine .bind_eq .advance fun _ => .bind_eq (Rel.kind (L := agreeLaw)) fun k => ?_
    split
    · exact .pure (.inr h.flush)
    · exact .bind_eq (rel_statement (L := agreeLaw) (agree_bodyOf_below n) c c) fun _ =>
        .bind_eq (Rel.expect (L := agreeLaw) _) fun _ => .pure (.inl ⟨h.flush.append _, rfl⟩)

/-- What is read behind two tokens agrees, whatever they are. -/
theorem sameOutcome_advance {p p' : Parse Stmt} (h : Agree S p p') (t t' : Token)
    {us us' : List Token}
    (hus : List.Forall₂ Token.Alike us us') (hne : us ≠ []) :
    SameOutcome S ((advance >>= fun _ => p) (t :: us)) ((advance >>= fun _ => p') (t' :: us')) := by
  have hne' : us' ≠ [] := by
    rintro rfl
    cases hus
    exact hne rfl
  change SameOutcome S (advance (t :: us) >>= fun r => p r.2)
    (advance (t' :: us') >>= fun r => p' r.2)
  rw [advance_cons hne, advance_cons hne']
  rcases checked_alike hus with ⟨hsame, hv, hw⟩ | ⟨q, q', hv, hw, hqq⟩
  · rw [hv, hw]
    exact h us us' hsame
  · rw [hv, hw]
    exact .error hqq

theorem run_template {ts : List Token} (h : checked ts = .ok ts) :
    run template ts = (recursive bodyRule (⟨[], []⟩, none) ts).map fun r => ⟨r.1⟩ := by
  rw [run, h]
  change (template ts >>= fun r => Except.ok r.1) = _
  change ((recursive bodyRule (⟨[], []⟩, none) ts >>= fun r => Except.ok (Template.mk r.1, r.2)) >>=
    fun r => Except.ok r.1) = _
  cases recursive bodyRule (⟨[], []⟩, none) ts <;> rfl

/-- Where the rules for two words agree behind the words, so do the templates that begin with tags
of them, behind their first statements. -/
theorem run_word {p p' : Parse Stmt} (hagree : Agree S p p') {w w' : Text}
    (hw : ∀ body, (statementRules body).lookup w = some (advance >>= fun _ => p))
    (hw' : ∀ body, (statementRules body).lookup w' = some (advance >>= fun _ => p'))
    {us us' : List Token} (hus : List.Forall₂ Token.Alike us us') (hne : us ≠ []) :
    (∃ t t', run template (⟨1, .blockBegin⟩ :: ⟨1, .name w⟩ :: us) = .ok t ∧
      run template (⟨1, .blockBegin⟩ :: ⟨1, .name w'⟩ :: us') = .ok t' ∧ FirstBy S t.body t'.body) ∨
    ∃ q q', run template (⟨1, .blockBegin⟩ :: ⟨1, .name w⟩ :: us) = .error q ∧
      run template (⟨1, .blockBegin⟩ :: ⟨1, .name w'⟩ :: us') = .error q' ∧ q.Alike q' := by
  -- The contents of the templates, from the statements of their first tags on.
  have hcontents : SameOutcome (FirstBy S)
      (recursive bodyRule (⟨[], []⟩, none) (⟨1, .blockBegin⟩ :: ⟨1, .name w⟩ :: us))
      (recursive bodyRule (⟨[], []⟩, none) (⟨1, .blockBegin⟩ :: ⟨1, .name w'⟩ :: us')) := by
    have hlen : (⟨1, .blockBegin⟩ :: ⟨1, .name w⟩ :: us : List Token).length =
        (⟨1, .blockBegin⟩ :: ⟨1, .name w'⟩ :: us' : List Token).length := by
      simp [hus.length_eq]
    rw [recursive_eq, recursive_eq, ← hlen, bodyRule, contents_eq]
    refine SameOutcome.iterate (V := Collected.FirstBy S)
      (fun a b hab => agree_contentsRound _ _ _ hab) ?_ hlen
    generalize (⟨1, .blockBegin⟩ :: ⟨1, .name w⟩ :: us : List Token).length = n
    have hround (v : Text) (us : List Token) :
        contentsRound (bodyOf (below bodyRule n)) ⟨[], []⟩ none
        ⟨[], []⟩ (⟨1, .blockBegin⟩ :: ⟨1, .name v⟩ :: us) =
        statement (bodyOf (below bodyRule n)) ⟨[], []⟩ (⟨1, .name v⟩ :: us) >>= fun r =>
          (expect .blockEnd >>= fun _ => pure (.inl ⟨[r.1], []⟩)) r.2 := rfl
    have hend (s s' : Stmt) (hs : S s s') : Agree (Sum.LiftRel (Collected.FirstBy S) (FirstBy S))
        (expect .blockEnd >>= fun _ => pure (.inl ⟨[s], []⟩))
        (expect .blockEnd >>= fun _ => pure (.inl ⟨[s'], []⟩)) :=
      .bind_eq (Rel.expect (L := agreeLaw) _) fun _ => .pure (.inl ⟨⟨s, s', [], hs, rfl, rfl⟩, rfl⟩)
    rw [hround, hround, statement_of_lookup (hw _), statement_of_lookup (hw' _)]
    exact (sameOutcome_advance hagree _ _ hus hne).bind hend
  rw [run_template rfl, run_template rfl]
  revert hcontents
  generalize recursive bodyRule (⟨[], []⟩, none) (⟨1, .blockBegin⟩ :: ⟨1, .name w⟩ :: us) = a
  generalize recursive bodyRule (⟨[], []⟩, none) (⟨1, .blockBegin⟩ :: ⟨1, .name w'⟩ :: us') = b
  intro hcontents
  cases hcontents with
  | ok hfirst _ => exact .inl ⟨_, _, rfl, rfl, hfirst⟩
  | error hqq => exact .inr ⟨_, _, rfl, rfl, hqq⟩

/-! ## Calls of partial templates -/

/-- Calls of two functions with the same arguments. -/
def SameCall (function function' : Text) (s s' : Stmt) : Prop :=
  ∃ args keywords, s = callOf function args keywords ∧ s' = callOf function' args keywords

/-- The arguments are read alike, whatever function is called. -/
theorem agree_partialArguments (function function' : Text) :
    Agree (SameCall function function') (partialArguments function) (partialArguments function') :=
  .bind_eq (rel_expression (L := agreeLaw)) fun _ =>
    .bind_eq (rel_partialObject (L := agreeLaw)) fun _ =>
    .bind_eq (rel_partialKeywords (L := agreeLaw) _) fun _ => .pure ⟨_, _, rfl, rfl⟩

end Grammar

/-! ## Includes and renderings -/

open Grammar

/-- A partial template is included and rendered alike: both tags are parsed, to templates that begin
with calls of the two functions with the same arguments and are the same otherwise, or neither is,
for problems of one kind on the same line. -/
theorem parse_include_render (x : Text) :
    (∃ t t' args keywords more, parse (wrapTag (("include " : Text) ++ x)) = .ok t ∧
      parse (wrapTag (("render " : Text) ++ x)) = .ok t' ∧
      t.body = callOf "include" args keywords :: more ∧
      t'.body = callOf "render" args keywords :: more) ∨
    ∃ p p', parse (wrapTag (("include " : Text) ++ x)) = .error p ∧
      parse (wrapTag (("render " : Text) ++ x)) = .error p' ∧
      p.line = p'.line ∧ p.cause.kind = p'.cause.kind := by
  obtain ⟨y, hy⟩ := exists_prepare_word x
  have hinclude : prepare (wrapTag (("include " : Text) ++ x)) =
      '{' :: '%' :: ' ' :: (("liquid_include" : Text) ++ ' ' :: y) :=
    hy "include" (List.all_eq_true.1 (by decide)) (by decide) (by decide)
  have hrender : prepare (wrapTag (("render " : Text) ++ x)) =
      '{' :: '%' :: ' ' :: (("render" : Text) ++ ' ' :: y) :=
    hy "render" (List.all_eq_true.1 (by decide)) (by decide) (by decide)
  obtain ⟨c, hcline, hcrest, hcpoint, hctokens⟩ := exists_tokens_word (w := "liquid_include")
    (List.all_eq_true.1 (by decide)) (by decide) rfl (fun _ => rfl) y
  obtain ⟨d, hdline, hdrest, hdpoint, hdtokens⟩ := exists_tokens_word (w := "render")
    (List.all_eq_true.1 (by decide)) (by decide) rfl (fun _ => rfl) y
  -- Behind the word of the tag both texts are the same, and so is what is known of the place.
  have hplaces : c.Alike d :=
    ⟨hcline.trans hdline.symm, hcrest.trans hdrest.symm, iff_of_false hcpoint hdpoint⟩
  have htokens := closeTokens_alike (hplaces.scan (.inside .block []))
  have hincludeRule (body : Body) : (statementRules body).lookup ("liquid_include" : Text) =
      some (Parse.advance >>= fun _ => partialArguments "include") := rfl
  have hrenderRule (body : Body) : (statementRules body).lookup ("render" : Text) =
      some (Parse.advance >>= fun _ => partialArguments "render") := rfl
  -- Both words are looked up, and the rules that they name go on in the same way.
  rw [parse, parse, hinclude, hrender, hctokens, hdtokens]
  rcases run_word (agree_partialArguments "include" "render") hincludeRule hrenderRule htokens
    (closeTokens_ne_nil _) with
    ⟨t, t', ht, ht', s, s', more, ⟨args, keywords, rfl, rfl⟩, hbody, hbody'⟩ |
      ⟨p, p', hp, hp', halike⟩
  · exact .inl ⟨t, t', args, keywords, more, ht, ht', hbody, hbody'⟩
  · exact .inr ⟨p, p', hp, hp', halike.line, halike.kind⟩

-- The arguments of an include, one of them with a filter that has an argument itself.
example : parse (wrapTag "include 'card' with item, size: n | plus: 2") =
    .ok ⟨[callOf "include" [.constant (.string ("card" : Text))]
      [("object", .name ("item" : Text) .load), ("size", .filter (some (.name ("n" : Text) .load))
        ("plus" : Text) ⟨[.constant (.integer 2)], [], none, none⟩)]]⟩ := by
  have htokens : tokens (prepare (wrapTag "include 'card' with item, size: n | plus: 2")) =
      onLine [.blockBegin, .name "liquid_include", .string "card", .name "with", .name "item",
        .operator .comma, .name "size", .operator .colon, .name "n", .operator .pipe, .name "plus",
        .operator .leftParen, .integer 2, .operator .rightParen, .blockEnd, .eof] := by
    decide +kernel
  rw [parse, htokens]
  with_unfolding_all rfl

end Template
end LiquidMarkdown
