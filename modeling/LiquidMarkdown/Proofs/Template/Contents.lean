import LiquidMarkdown.Proofs.Template.LawStatement
import LiquidMarkdown.Proofs.Template.Local

/-!
# Tags one after another

The tokens of a tag that is a template of its own give one statement, and the same tokens give the
same statement between the tags of a body.  This file defines:

* `contentsRound` — one round of the reader for contents;
* `onLine` — kinds of tokens on the first line;
* `Stands` — the tokens between the delimiters of a tag that is a template of its own, with the
  statement that they stand for;
* `tagTokens` — the tokens of such a tag, with its delimiters.

A tag that is read alone stands for a statement (`exists_stands_of_run`), and a tag that holds other
tags is read as the scope of the statements that those stand for (`run_lineTags`).
-/

namespace LiquidMarkdown
namespace Template
namespace Grammar

open Parse

/-! ## Statements are local -/

section Local

variable {E : Ending}

/-- A statement is read alike within two lists and two contexts, if as many tokens may be left in
the long list as in the short one. -/
theorem local_statement_below {m n : Nat}
    (hmn : ∀ us, (E.short us).length < m → (E.long us).length < n) (c c' : Context) :
    Local E (statement (bodyOf (below bodyRule m)) c)
      (statement (bodyOf (below bodyRule n)) c') := by
  refine rel_statement (L := localLaw E) (rel_bodyOf fun c c' ends => ?_) c c'
  exact Local.below (R := SameEnds) (fun inner inner' h => rel_bodyRule (L := localLaw E) h) hmn rfl

/-- A statement leaves an end of the list, whatever stands in it. -/
theorem drops_statement_below (n : Nat) (c : Context) :
    Drops (statement (bodyOf (below bodyRule n)) c) :=
  (local_statement_below (E := ⟨⟨1, .blockEnd⟩, ⟨1, .eof⟩, [], rfl⟩)
    (fun _ => Ending.length_long_lt) c c).drops

end Local

/-! ## Rounds -/

section Rounds

variable {bodyIn : Context → Body} {c : Context} {ends : Option (List Text)}

/-- Does the token close the body? -/
def closes (ends : Option (List Text)) (k : Token.Kind) : Bool :=
  match ends, k with
  | some words, .name t => words.contains t
  | _, _ => false

/-- One round of the reader for contents. -/
def contentsRound (bodyIn : Context → Body) (c : Context) (ends : Option (List Text))
    (collected : Collected) : Parse (Collected ⊕ List Stmt) := do
  match ← kind with
  | .eof => return .inr collected.flush
  | .data t =>
      let _ ← advance
      return .inl { collected with parts := collected.parts ++ [.data t] }
  | .variableBegin =>
      let _ ← advance
      let e ← tuple
      let _ ← expect .variableEnd
      return .inl { collected with parts := collected.parts ++ [e.expr] }
  | _ =>
      let _ ← advance
      if closes ends (← kind) then return .inr collected.flush
      let s ← statement bodyIn c
      let _ ← expect .blockEnd
      return .inl ⟨collected.flush ++ [s], []⟩

theorem contents_eq (bodyIn : Context → Body) (c : Context) (ends : Option (List Text)) :
    contents bodyIn c ends = iterate (contentsRound bodyIn c ends) ⟨[], []⟩ :=
  rfl

/-- At the beginning of a tag that does not close the body, a round reads a statement up to the end
of the tag. -/
theorem contentsRound_tag {collected : Collected} {n : Nat} {ts : List Token} (hne : ts ≠ [])
    (hcloses : closes ends (ts.headD nothing).kind = false) {r : Collected ⊕ List Stmt}
    {rest : List Token} :
    contentsRound bodyIn c ends collected (⟨n, .blockBegin⟩ :: ts) = .ok (r, rest) ↔
      checked ts = .ok ts ∧ ∃ s left x, statement bodyIn c ts = .ok (s, left) ∧
        expect .blockEnd left = .ok (x, rest) ∧ r = .inl ⟨collected.flush ++ [s], []⟩ := by
  -- The round for a tag, with the cases of other tokens gone.
  change (advance >>= fun _ => kind >>= fun k =>
    if closes ends k = true then pure (.inr collected.flush)
    else statement bodyIn c >>= fun s => expect .blockEnd >>= fun _ =>
      pure (.inl ⟨collected.flush ++ [s], []⟩)) (⟨n, .blockBegin⟩ :: ts) = .ok (r, rest) ↔ _
  have hkind : kind ts = .ok ((ts.headD nothing).kind, ts) := rfl
  constructor
  · intro h
    obtain ⟨t, us, ht, hbehind⟩ := bind_eq_ok.1 h
    obtain ⟨⟨hc, -⟩, hus⟩ := eq_of_advance_cons hne ht
    rw [hus] at hbehind
    obtain ⟨k, us, hk, hround⟩ := bind_eq_ok.1 hbehind
    rw [hkind] at hk
    cases hk
    rw [hcloses] at hround
    obtain ⟨s, left, hs, hend⟩ := bind_eq_ok.1 hround
    obtain ⟨x, left', hx, hr⟩ := bind_eq_ok.1 hend
    cases hr
    exact ⟨hc, s, left, x, hs, hx, rfl⟩
  · rintro ⟨hc, s, left, x, hs, hx, rfl⟩
    have hadvance : advance (⟨n, .blockBegin⟩ :: ts) = .ok (⟨n, .blockBegin⟩, ts) := by
      rw [advance_cons hne, hc]
      rfl
    refine bind_eq_ok.2 ⟨_, _, hadvance, bind_eq_ok.2 ⟨_, _, hkind, ?_⟩⟩
    rw [hcloses]
    exact bind_eq_ok.2 ⟨s, left, hs, bind_eq_ok.2 ⟨x, rest, hx, rfl⟩⟩

/-- At a tag that closes the body, the contents come to an end behind the beginning of the tag. -/
theorem contentsRound_closing {collected : Collected} {n m : Nat} {words : List Text} {w : Text}
    (hw : w ∈ words) {ts : List Token} :
    contentsRound bodyIn c (some words) collected (⟨n, .blockBegin⟩ :: ⟨m, .name w⟩ :: ts) =
      .ok (.inr collected.flush, ⟨m, .name w⟩ :: ts) := by
  have hclosing : words.contains w = true := List.contains_iff_mem.2 hw
  change (if words.contains w = true then _ else _ : Parse (Collected ⊕ List Stmt)) _ = _
  rw [if_pos hclosing]
  rfl

/-- A statement is read by the rule of its first word. -/
theorem statement_eq {n : Nat} {name : Text} {us : List Token} :
    statement bodyIn c (⟨n, .name name⟩ :: us) =
      (((statementRules (bodyIn { c with tags := name :: c.tags })).lookup name).getD
        (failAt n (c.openBlock (some name)))) (⟨n, .name name⟩ :: us) := by
  rw [statement, current_bind]
  dsimp only
  cases (statementRules (bodyIn { c with tags := name :: c.tags })).lookup name <;> rfl

theorem statement_of_lookup {n : Nat} {name : Text} {us : List Token} {p : Parse Stmt}
    (hp : (statementRules (bodyIn { c with tags := name :: c.tags })).lookup name = some p) :
    statement bodyIn c (⟨n, .name name⟩ :: us) = p (⟨n, .name name⟩ :: us) := by
  rw [statement_eq, hp, Option.getD_some]

/-- A statement begins with a word that has a rule. -/
theorem exists_name_of_statement {ts left : List Token} {s : Stmt}
    (h : statement bodyIn c ts = .ok (s, left)) :
    ∃ n name us, ts = ⟨n, .name name⟩ :: us ∧
      (statementRules (bodyIn { c with tags := name :: c.tags })).lookup name ≠ none := by
  cases ts with
  | nil => cases h
  | cons t us =>
      rcases t with ⟨n, k⟩
      cases k with
      | name name =>
          refine ⟨n, name, us, rfl, fun hnone => ?_⟩
          rw [statement_eq, hnone, Option.getD_none] at h
          cases h
      | _ => cases h

end Rounds

/-- The end of a tag that was asked for is the head of the list. -/
theorem exists_blockEnd_of_expect {ts rest : List Token} {x : Token}
    (h : expect .blockEnd ts = .ok (x, rest)) :
    ∃ n us, ts = ⟨n, .blockEnd⟩ :: us ∧ (us ≠ [] → rest = us) := by
  cases ts with
  | nil => cases h
  | cons t us =>
      rcases t with ⟨n, k⟩
      cases k with
      | blockEnd =>
          refine ⟨n, us, rfl, fun hne => ?_⟩
          obtain ⟨y, left, hy, hrest⟩ := bind_eq_ok.1 h
          change (advance >>= fun t => pure (some t)) (⟨n, .blockEnd⟩ :: us) = .ok (y, left) at hy
          obtain ⟨z, left', hz, hleft⟩ := bind_eq_ok.1 hy
          cases hleft
          cases hrest
          exact (eq_of_advance_cons hne hz).2
      | _ => cases h

/-! ## A tag that is a template of its own -/

/-- Tokens of the given kinds, all on the first line. -/
def onLine (ks : List Token.Kind) : List Token :=
  ks.map (Token.mk 1)

theorem onLine_append (ks ls : List Token.Kind) : onLine (ks ++ ls) = onLine ks ++ onLine ls :=
  List.map_append

/-- The end of a tag, with the end of the template or with more tokens behind it. -/
def tagEnding (more : List Token) : Ending where
  stop := ⟨1, .blockEnd⟩
  last := ⟨1, .eof⟩
  more := more
  isEnd := rfl

/-- The kinds of the tokens in a tag that is a template of its own, and the statement that it is. -/
structure Stands (ks : List Token.Kind) (s : Stmt) : Prop where
  named : ∃ name ls, ks = .name name :: ls ∧ name ≠ "endliquid"
  statement : statement (bodyOf (below bodyRule (ks.length + 3))) ⟨[], []⟩
    (onLine (ks ++ [.blockEnd, .eof])) = .ok (s, onLine [.blockEnd, .eof])

/-- A template that begins with a tag begins with a statement that goes up to the end of that tag.
-/
theorem exists_statement_of_run {us : List Token} (hne : us ≠ []) {t : Template}
    (h : run template (⟨1, .blockBegin⟩ :: us) = .ok t) :
    ∃ s left x rest rest', statement (bodyOf (below bodyRule (us.length + 1))) ⟨[], []⟩ us =
        .ok (s, left) ∧ expect .blockEnd left = .ok (x, rest) ∧
      iterate (contentsRound (bodyOf (below bodyRule (us.length + 1))) ⟨[], []⟩ none)
        ⟨[s], []⟩ rest =
        .ok (t.body, rest') := by
  obtain ⟨rest', ht⟩ := (run_eq_ok rfl).1 h
  obtain ⟨stmts, left, hstmts, hr⟩ := bind_eq_ok.1 ht
  cases hr
  rw [recursive_eq, bodyRule, contents_eq] at hstmts
  rcases iterate_eq_ok.1 hstmts with hlast | ⟨collected, rest, hround, -, hrest⟩
  · obtain ⟨-, s, left, x, hs, hx, hr⟩ := (contentsRound_tag hne rfl).1 hlast
    cases hr
  · obtain ⟨-, s, left, x, hs, hx, hr⟩ := (contentsRound_tag hne rfl).1 hround
    cases hr
    exact ⟨s, left, x, rest, rest', hs, hx, hrest⟩

/-- The end of a tag is found where it is the only one. -/
theorem eq_of_blockEnd_suffix {ks : List Token.Kind} (hks : .blockEnd ∉ ks) {n : Nat}
    {us : List Token} (h : ⟨n, .blockEnd⟩ :: us <:+ onLine (ks ++ [.blockEnd, .eof])) :
    (⟨n, .blockEnd⟩ :: us : List Token) = onLine [.blockEnd, .eof] := by
  rcases h with ⟨pre, hpre⟩
  rw [onLine_append] at hpre
  rcases List.append_eq_append_iff.1 hpre with ⟨mid, hks', hus⟩ | ⟨mid, hpre', hus⟩
  · cases mid with
    | nil => exact hus
    | cons t mid =>
        have hmem : t ∈ onLine ks := hks' ▸ List.mem_append_right pre (List.mem_cons_self ..)
        obtain ⟨k, hk, rfl⟩ := List.mem_map.1 hmem
        cases (List.cons.inj hus).1
        exact absurd hk hks
  · cases mid with
    | nil => exact hus.symm
    | cons t mid =>
        cases mid with
        | nil => cases (List.cons.inj (List.cons.inj hus).2).1
        | cons u mid =>
            have hlen := congrArg List.length hus
            simp only [onLine, List.map_cons, List.map_nil, List.length_append, List.length_cons,
              List.length_nil] at hlen
            omega

/-- A template of one tag has the tokens of a statement. -/
theorem exists_stands_of_run {ks : List Token.Kind} (hks : .blockEnd ∉ ks) {t : Template}
    (h : run template (onLine (.blockBegin :: ks ++ [.blockEnd, .eof])) = .ok t) :
    ∃ s, Stands ks s ∧ t.body = [s] := by
  have hne : onLine (ks ++ [.blockEnd, .eof]) ≠ [] := by simp [onLine]
  obtain ⟨s, left, x, rest, rest', hs, hx, hrest⟩ := exists_statement_of_run hne h
  obtain ⟨n, us, rfl, hus⟩ := exists_blockEnd_of_expect hx
  have hleft := eq_of_blockEnd_suffix hks (drops_statement_below _ _ _ _ _ hs)
  cases hleft
  obtain rfl := hus (List.cons_ne_nil _ _)
  -- Behind the tag there is only the end of the text, so the loop stops with this one statement.
  have hround : contentsRound (bodyOf (below bodyRule (ks.length + 3))) ⟨[], []⟩ none ⟨[s], []⟩
      [⟨1, .eof⟩] = .ok (.inr [s], [⟨1, .eof⟩]) := rfl
  have hbody : t.body = [s] := by
    rcases iterate_eq_ok.1 hrest with hlast | ⟨collected, rest, hnext, -, -⟩
    · exact (Sum.inr.inj (Prod.mk.inj (Except.ok.inj hlast)).1).symm
    · cases hnext
  obtain ⟨n, name, vs, hts, hlookup⟩ := exists_name_of_statement hs
  refine ⟨s, ⟨?_, ?_⟩, hbody⟩
  · cases ks with
    | nil => cases hts
    | cons k ls =>
        cases (List.cons.inj hts).1
        refine ⟨name, ls, rfl, ?_⟩
        rintro rfl
        exact hlookup rfl
  · have hlen : (onLine (ks ++ [.blockEnd, .eof])).length + 1 = ks.length + 3 := by simp [onLine]
    rwa [hlen] at hs

/-! ## Tags in a body -/

theorem expect_blockEnd {n : Nat} {ts : List Token} (hne : ts ≠ []) (hc : checked ts = .ok ts) :
    expect .blockEnd (⟨n, .blockEnd⟩ :: ts) = .ok (⟨n, .blockEnd⟩, ts) := by
  have hadvance : advance (⟨n, .blockEnd⟩ :: ts) = .ok (⟨n, .blockEnd⟩, ts) := by
    rw [advance_cons hne, hc]
    rfl
  refine bind_eq_ok.2 ⟨some ⟨n, .blockEnd⟩, ts, ?_, rfl⟩
  change (advance >>= fun t => pure (some t)) (⟨n, .blockEnd⟩ :: ts) = _
  exact bind_eq_ok.2 ⟨_, _, hadvance, rfl⟩

/-- The tokens of a tag, with its delimiters. -/
def tagTokens (ks : List Token.Kind) : List Token :=
  onLine (.blockBegin :: ks ++ [.blockEnd])

theorem tagTokens_append (ks : List Token.Kind) (ts : List Token) :
    tagTokens ks ++ ts = ⟨1, .blockBegin⟩ :: (tagEnding ts).long (onLine ks) := by
  simp [tagTokens, onLine, Ending.long, tagEnding]

/-- The first of several tags begins like the last. -/
theorem exists_blockBegin (tags : List (List Token.Kind)) (ts : List Token) :
    ∃ us, tags.flatMap tagTokens ++ ⟨1, .blockBegin⟩ :: ts = ⟨1, .blockBegin⟩ :: us := by
  cases tags with
  | nil => exact ⟨ts, rfl⟩
  | cons ks tags =>
      rw [List.flatMap_cons, List.append_assoc, tagTokens_append]
      exact ⟨_, rfl⟩

/-- A tag among others gives the statement that it gives alone. -/
theorem contentsRound_stands {ks : List Token.Kind} {s : Stmt} (h : Stands ks s) {c : Context}
    {done : List Stmt} {n : Nat} {ts : List Token} (hts : ∃ us, ts = ⟨1, .blockBegin⟩ :: us)
    (hn : (tagTokens ks ++ ts).length ≤ n) :
    contentsRound (bodyOf (below bodyRule n)) c (some ["endliquid"]) ⟨done, []⟩
      (tagTokens ks ++ ts) = .ok (.inl ⟨done ++ [s], []⟩, ts) := by
  obtain ⟨us, rfl⟩ := hts
  obtain ⟨name, ls, rfl, hname⟩ := h.named
  rw [tagTokens_append] at hn ⊢
  have hcloses : closes (some ["endliquid"]) (.name name) = false := by
    refine Bool.eq_false_iff.2 fun hmem => hname ?_
    exact List.mem_singleton.1 (List.contains_iff_mem.1 hmem)
  have hstatement : statement (bodyOf (below bodyRule n)) c
      ((tagEnding (⟨1, .blockBegin⟩ :: us)).long (onLine (.name name :: ls))) =
      .ok (s, ⟨1, .blockEnd⟩ :: ⟨1, .blockBegin⟩ :: us) := by
    -- The rule for bodies is used on shorter texts only.
    have hlengths : ∀ vs, ((tagEnding (⟨1, .blockBegin⟩ :: us)).short vs).length <
        (Token.Kind.name name :: ls).length + 3 →
        ((tagEnding (⟨1, .blockBegin⟩ :: us)).long vs).length < n := by
      intro vs hvs
      simp only [Ending.short, Ending.long, onLine, List.length_append, List.length_cons,
        List.length_map, List.length_nil] at hn hvs ⊢
      omega
    have hs := h.statement
    rw [onLine_append] at hs
    exact (local_statement_below hlengths ⟨[], []⟩ c).long _ s [] hs
  exact (contentsRound_tag (Ending.long_ne_nil _) hcloses).2 ⟨rfl, s, _, _, hstatement,
    expect_blockEnd (List.cons_ne_nil _ _) rfl, rfl⟩

/-- Tags one after another give their statements, up to the tag that closes the body. -/
theorem iterate_stands {tags : List (List Token.Kind)} {stmts : List Stmt}
    (h : List.Forall₂ Stands tags stmts) (c : Context) (done : List Stmt) {n : Nat}
    (ts : List Token)
    (hn : (tags.flatMap tagTokens ++ ⟨1, .blockBegin⟩ :: ⟨1, .name "endliquid"⟩ :: ts).length ≤ n) :
    iterate (contentsRound (bodyOf (below bodyRule n)) c (some ["endliquid"])) ⟨done, []⟩
      (tags.flatMap tagTokens ++ ⟨1, .blockBegin⟩ :: ⟨1, .name "endliquid"⟩ :: ts) =
      .ok (done ++ stmts, ⟨1, .name "endliquid"⟩ :: ts) := by
  induction h generalizing done with
  | nil =>
      rw [List.append_nil]
      exact iterate_eq_ok.2 (.inl (contentsRound_closing (List.mem_singleton_self _)))
  | @cons ks s tags stmts hks _ ih =>
      rw [List.flatMap_cons, List.append_assoc] at hn ⊢
      refine iterate_eq_ok.2
        (.inr ⟨_, _, contentsRound_stands hks (exists_blockBegin _ _) hn, ?_, ?_⟩)
      · have hpos : 0 < (tagTokens ks).length := by simp [tagTokens, onLine]
        simp only [List.length_append]
        omega
      · rw [List.length_append] at hn
        rw [ih (done ++ [s]) (by omega), List.append_assoc]
        rfl

/-! ## A tag that holds tags -/

/-- The body of a tag that holds other tags. -/
theorem bodyOf_stands {tags : List (List Token.Kind)} {stmts : List Stmt}
    (h : List.Forall₂ Stands tags stmts) {n : Nat} {us : List Token}
    (hus : tags.flatMap tagTokens ++ onLine [.blockBegin, .name "endliquid", .blockEnd, .eof] =
      ⟨1, .blockBegin⟩ :: us)
    (hn : (⟨1, .blockBegin⟩ :: us : List Token).length < n) (c : Context) :
    bodyOf (below bodyRule n) c ["endliquid"] true (⟨1, .blockEnd⟩ :: ⟨1, .blockBegin⟩ :: us) =
      .ok (stmts, onLine [.blockEnd, .eof]) := by
  have hinner (c : Context) : below bodyRule n (c, some ["endliquid"]) (⟨1, .blockBegin⟩ :: us) =
      .ok (stmts, onLine [.name "endliquid", .blockEnd, .eof]) := by
    refine below_eq_ok.2 ⟨hn, ?_⟩
    rw [bodyRule, contents_eq, ← hus]
    exact iterate_stands h c [] _ (Nat.le_refl _)
  refine bind_eq_ok.2 ⟨false, _, rfl, ?_⟩
  refine bind_eq_ok.2 ⟨_, _, expect_blockEnd (List.cons_ne_nil _ _) rfl, ?_⟩
  exact bind_eq_ok.2 ⟨stmts, _, hinner _, rfl⟩

/-- A tag that holds other tags is a scope of their statements. -/
theorem run_lineTags {tags : List (List Token.Kind)} {stmts : List Stmt}
    (h : List.Forall₂ Stands tags stmts) :
    run template (tagTokens [.name "liquid"] ++ tags.flatMap tagTokens ++
      onLine [.blockBegin, .name "endliquid", .blockEnd, .eof]) = .ok ⟨[.scope stmts]⟩ := by
  obtain ⟨us, hus⟩ := exists_blockBegin tags (onLine [.name "endliquid", .blockEnd, .eof])
  have htags : tagTokens [.name "liquid"] ++ tags.flatMap tagTokens ++
      onLine [.blockBegin, .name "endliquid", .blockEnd, .eof] =
      ⟨1, .blockBegin⟩ :: ⟨1, .name "liquid"⟩ :: ⟨1, .blockEnd⟩ :: ⟨1, .blockBegin⟩ :: us := by
    rw [← hus, List.append_assoc]
    rfl
  generalize hn : (⟨1, .blockBegin⟩ :: ⟨1, .name "liquid"⟩ :: ⟨1, .blockEnd⟩ :: ⟨1, .blockBegin⟩ ::
    us : List Token).length = n
  have hstatement : statement (bodyOf (below bodyRule n)) ⟨[], []⟩
      (⟨1, .name "liquid"⟩ :: ⟨1, .blockEnd⟩ :: ⟨1, .blockBegin⟩ :: us) =
      .ok (.scope stmts, onLine [.blockEnd, .eof]) := by
    rw [statement_of_lookup (p := lineTags (bodyOf (below bodyRule n) ⟨["liquid"], []⟩)) rfl]
    refine bind_eq_ok.2 ⟨⟨1, .name "liquid"⟩, _, rfl, ?_⟩
    refine bind_eq_ok.2 ⟨stmts, _, bodyOf_stands h hus ?_ _, rfl⟩
    rw [← hn]
    simp
  -- One round takes all the tags of the lines together, and behind it the text is at its end.
  have hrun : recursive bodyRule (⟨[], []⟩, none)
      (⟨1, .blockBegin⟩ :: ⟨1, .name "liquid"⟩ :: ⟨1, .blockEnd⟩ :: ⟨1, .blockBegin⟩ :: us) =
      .ok ([.scope stmts], [⟨1, .eof⟩]) := by
    rw [recursive_eq, hn, bodyRule, contents_eq]
    refine iterate_eq_ok.2 (.inr ⟨⟨[.scope stmts], []⟩, [⟨1, .eof⟩], ?_, ?_, ?_⟩)
    · exact (contentsRound_tag (List.cons_ne_nil _ _) rfl).2 ⟨rfl, _, _, _, hstatement,
        expect_blockEnd (List.cons_ne_nil _ _) rfl, rfl⟩
    · simp
    · exact iterate_eq_ok.2 (.inl rfl)
  rw [htags]
  exact (run_eq_ok rfl).2 ⟨_, bind_eq_ok.2 ⟨_, _, hrun, rfl⟩⟩

end Grammar
end Template
end LiquidMarkdown
