import LiquidMarkdown.Proofs.Template.Layout
import LiquidMarkdown.Proofs.Template.Tags

/-!
# Lines of a tag, alone and together

A tag that holds lines means the sequence of its lines, each as a tag of its own.  This file
defines:

* `KeepsMeaning` — a line whose tag is not changed in meaning when the line is cut at its first
  space;
* `Reads` — the inside of a tag, from its text to its statement.

The main result is `parse_lineTagText`.
-/

namespace LiquidMarkdown
namespace Template

open Grammar

/-! ## The tag of a line -/

/-- What a line needs to mean the same in a tag of lines: it opens no raw section and holds no tag
of lines, and its first word ends at its first space, or what follows that space is kept as it is.
-/
@[mk_iff]
structure KeepsMeaning (line : Text) : Prop where
  noRaw : line ≠ ("raw" : Text)
  noLineTag : expandLineTags (wrapTag line) = wrapTag line
  keyword : (∀ c ∈ line.takeWhile (· ≠ ' '), Unicode.isWord c = true) ∨
    Text.trim (line.dropWhile (· ≠ ' ')) = (line.dropWhile (· ≠ ' ')).drop 1

instance : DecidablePred KeepsMeaning := fun line =>
  decidable_of_iff (line ≠ ("raw" : Text) ∧ expandLineTags (wrapTag line) = wrapTag line ∧
    ((line.takeWhile (· ≠ ' ')).all Unicode.isWord = true ∨
      Text.trim (line.dropWhile (· ≠ ' ')) = (line.dropWhile (· ≠ ' ')).drop 1))
    (by rw [keepsMeaning_iff, List.all_eq_true])

/-- The inside of a tag, prepared, with the kinds of its tokens and the statement that they stand
for. -/
structure Reads (s w : Text) (ks : List Token.Kind) (stmt : Stmt) : Prop where
  prepared : Prepared s w
  tokenised : Tokenised w ks
  stands : Stands ks stmt

section Alone

variable {s w w' : Text}

theorem Prepared.eq_tagText (h : Prepared s w) :
    callFilters (renameIncludes (wrapTag s)) = tagText w := by
  have hnil : callFilters (renameIncludes []) = [] := by
    rw [renameIncludes, rewriteAll, callFilters, rewriteAll]
  have hs := h []
  rw [List.append_nil, hnil] at hs
  exact hs

/-- There is one way to prepare a tag. -/
theorem Prepared.unique (h : Prepared s w) (h' : Prepared s w') : w = w' := by
  have heq := h.eq_tagText.symm.trans h'.eq_tagText
  exact List.append_cancel_right (List.cons.inj (List.cons.inj heq).2).2

theorem mem_trim_of_mem {t : Text} {c : Char} (hc : c ∈ t) :
    Text.isBlank c = true ∨ c ∈ Text.trim t := by
  rw [← Text.takeWhile_append_dropStart Text.isBlank t] at hc
  rcases List.mem_append.1 hc with hc | hc
  · exact .inl (List.mem_takeWhile_imp hc)
  · rw [← Text.dropEnd_append_takeEnd Text.isBlank (Text.dropStart Text.isBlank t)] at hc
    rcases List.mem_append.1 hc with hc | hc
    · exact .inr hc
    · exact .inl (List.mem_takeWhile_imp (List.mem_reverse.1 hc))

/-- A tag on one line that opens no raw section is prepared to such a tag. -/
theorem exists_prepared_inside (hs : Inline s) (hraw : Text.trim s ≠ ("raw" : Text)) :
    ∃ w, Prepared s w ∧ Inside w ∧ w.head? = some ' ' ∧ Inline w ∧
      Text.trim w ≠ ("raw" : Text) := by
  obtain ⟨w, hfits, hw⟩ := exists_prepared s
  refine ⟨w, hw, hfits.inside hs.inside_spaced hs.spaced, hfits.head, hfits.inline hs.spaced,
    fun htrim => ?_⟩
  rcases hfits.shown with rfl | ⟨c, hc, hshown⟩
  · exact hraw (Text.trim_spaced s ▸ htrim)
  · rcases mem_trim_of_mem hc with hblank | hmem
    · rcases hshown with rfl | rfl | rfl <;> cases hblank
    · rw [htrim] at hmem
      rcases hshown with rfl | rfl | rfl <;> exact absurd hmem (by decide)

/-- A tag that is parsed alone is one statement. -/
theorem exists_reads_of_parse (hs : Inline s) (hraw : Text.trim s ≠ ("raw" : Text))
    (hexpand : expandLineTags (wrapTag s) = wrapTag s) {t : Template}
    (h : parse (wrapTag s) = .ok t) :
    ∃ w ks stmt, Reads s w ks stmt ∧ t.body = [stmt] := by
  obtain ⟨w, hw, hinside, hhead, hinline, htrim⟩ := exists_prepared_inside hs hraw
  rw [parse, prepare, hexpand, hw.eq_tagText] at h
  obtain ⟨ks, stmt, htokens, hstands, hbody⟩ :=
    exists_stands_of_run_tokens hinside hhead hinline.noBreak htrim h
  exact ⟨w, ks, stmt, ⟨hw, htokens, hstands⟩, hbody⟩

end Alone

/-! ## The word that a line begins with -/

section Keyword

variable {line w : Text} {ks : List Token.Kind} {stmt : Stmt}

/-- A text is its first word, alone or before a space. -/
theorem eq_takeWhile_or (t : Text) : t.dropWhile (· ≠ ' ') = [] ∧ t = t.takeWhile (· ≠ ' ') ∨
    ∃ r, t.dropWhile (· ≠ ' ') = ' ' :: r ∧ t = t.takeWhile (· ≠ ' ') ++ ' ' :: r := by
  have ht := List.takeWhile_append_dropWhile (p := (· ≠ ' ')) (l := t)
  cases hrest : t.dropWhile (· ≠ ' ') with
  | nil =>
      left
      rw [hrest, List.append_nil] at ht
      exact ⟨rfl, ht.symm⟩
  | cons c r =>
      right
      have hc : c = ' ' := by
        have hhead : c ∈ (Text.dropStart (· ≠ ' ') t).head? := by
          rw [Text.dropStart, hrest]
          rfl
        simpa using Text.head?_dropStart c hhead
      rw [hrest, hc] at ht
      exact ⟨r, by rw [hc], ht.symm⟩

/-- A statement begins with a word that has a rule. -/
theorem exists_lookup_of_reads (h : Reads line w ks stmt) {word : Text}
    (hline : line.takeWhile (· ≠ ' ') = word) (hword : ∀ c ∈ word, Unicode.isWord c = true)
    (hne : word ≠ []) (hname : lexemeAt false [] word = (.name word, [], []))
    (hrenamed : renamedWord word = word) : ∃ b, (statementRules b).lookup word ≠ none := by
  have hw : ∃ x, w = ' ' :: (word ++ ' ' :: x) := by
    rcases eq_takeWhile_or line with ⟨-, heq⟩ | ⟨r, -, heq⟩
    · rw [hline] at heq
      have hprepared := prepared_word hword hne
      rw [hrenamed, ← heq] at hprepared
      exact ⟨[], h.prepared.unique (heq ▸ hprepared)⟩
    · rw [hline] at heq
      obtain ⟨q, hq⟩ := exists_prepared_word hword hne r
      have hprepared := hq [] fun c hc => absurd hc List.not_mem_nil
      rw [hrenamed, List.nil_append, ← heq] at hprepared
      exact ⟨q, h.prepared.unique hprepared⟩
  -- The tag begins with the word, so the name of its statement is the word.
  obtain ⟨x, rfl⟩ := hw
  have hall := h.tokenised.lexes []
  rw [List.cons_append, List.append_assoc] at hall
  have hlexes := hall.behind_blank rfl
  rw [trimStart_word hword hne] at hlexes
  obtain ⟨ls, hls⟩ := hlexes.exists_cons_of_name hword hne hname
  obtain ⟨name, ls', rfl, -⟩ := h.stands.named
  obtain ⟨n, name', us, hts, hlookup⟩ := exists_name_of_statement h.stands.statement
  cases (List.cons.inj hts).1
  cases (List.cons.inj hls).1
  exact ⟨_, hlookup⟩

theorem takeWhile_ne_of_lookup (h : Reads line w ks stmt) {word : Text}
    (hword : word.all Unicode.isWord = true) (hne : word ≠ [])
    (hname : lexemeAt false [] word = (.name word, [], [])) (hrenamed : renamedWord word = word)
    (hlookup : ∀ b, (statementRules b).lookup word = none) : line.takeWhile (· ≠ ' ') ≠ word := by
  intro hline
  obtain ⟨b, hb⟩ := exists_lookup_of_reads h hline (List.all_eq_true.1 hword) hne hname hrenamed
  exact hb (hlookup b)

/-- The words that stand for others in a tag of lines begin no statement. -/
theorem takeWhile_ne_of_reads (h : Reads line w ks stmt) :
    line.takeWhile (· ≠ ' ') ≠ ("unless" : Text) ∧ line.takeWhile (· ≠ ' ') ≠ ("elsif" : Text) ∧
      line.takeWhile (· ≠ ' ') ≠ ("endunless" : Text) :=
  ⟨takeWhile_ne_of_lookup h (by decide) (by decide) rfl (by decide) fun _ => rfl,
    takeWhile_ne_of_lookup h (by decide) (by decide) rfl (by decide) fun _ => rfl,
    takeWhile_ne_of_lookup h (by decide) (by decide) rfl (by decide) fun _ => rfl⟩

end Keyword

/-! ## A line among others -/

section Among

variable {line : Text}

/-- A line whose first word stands for no other is the inside of a tag, with one space behind its
first word. -/
theorem lineTag_eq (hne : line.takeWhile (· ≠ ' ') ≠ [])
    (hwords : line.takeWhile (· ≠ ' ') ≠ ("unless" : Text) ∧
      line.takeWhile (· ≠ ' ') ≠ ("elsif" : Text) ∧
        line.takeWhile (· ≠ ' ') ≠ ("endunless" : Text)) :
    lineTag line = if Text.trim (line.dropWhile (· ≠ ' ')) = [] then line.takeWhile (· ≠ ' ')
      else line.takeWhile (· ≠ ' ') ++ ' ' :: Text.trim (line.dropWhile (· ≠ ' ')) := by
  obtain ⟨hunless, helsif, hendunless⟩ := hwords
  unfold lineTag
  dsimp only
  rw [if_neg hunless, if_neg helsif, if_neg hendunless]
  generalize line.takeWhile (· ≠ ' ') = v at hne ⊢
  generalize Text.trim (line.dropWhile (· ≠ ' ')) = r
  split
  · next hr => simp [hr, hne, Text.joinWith]
  · next hr => simp [hr, hne, Text.joinWith, List.intercalate_cons_cons]

-- Where a tab sets off the first word, the first space can stand in a literal.
example : lineTag "echo\t'a  b'" = "echo\t'a b'" := by
  decide

/-- In a trimmed text, what follows a space is trimmed at its start only, and is not blank. -/
theorem trim_behind_space {v r : Text} (h : Text.trim (v ++ ' ' :: r) = v ++ ' ' :: r) :
    Text.trim (' ' :: r) = Text.trimStart r ∧ Text.trimStart r ≠ [] := by
  have hlast := Text.getLast?_of_trim h
  have hblank : Text.trimStart r ≠ [] := by
    intro hnil
    have hr : ∀ c ∈ ' ' :: r, Text.isBlank c = true := by
      intro c hc
      rcases List.mem_cons.1 hc with rfl | hc
      · rfl
      · exact List.dropWhile_eq_nil_iff.1 hnil c hc
    have hend := List.getLast?_eq_some_getLast (List.cons_ne_nil ' ' r)
    have hblank := hr _ (List.getLast_mem (List.cons_ne_nil ' ' r))
    rw [hlast _ (List.mem_getLast?_append_of_mem_getLast? hend)] at hblank
    cases hblank
  have htrim := Text.trim_append_left (u := [' ']) (List.forall_mem_singleton.2 rfl) r
  refine ⟨htrim.trans (Text.dropEnd_eq_self fun c hc => hlast c ?_), hblank⟩
  obtain ⟨u, hu⟩ : Text.trimStart r <:+ v ++ ' ' :: r :=
    (List.dropWhile_suffix _).trans ((List.suffix_cons ' ' r).trans (List.suffix_append v _))
  rw [← hu]
  exact List.mem_getLast?_append_of_mem_getLast? hc

/-- What the tag of a line is: the line, or the line without the blanks behind the space that sets
off its first word. -/
theorem lineTag_cases (hline : IsTagLine line) (hkeeps : KeepsMeaning line)
    (hwords : line.takeWhile (· ≠ ' ') ≠ ("unless" : Text) ∧
      line.takeWhile (· ≠ ' ') ≠ ("elsif" : Text) ∧
        line.takeWhile (· ≠ ' ') ≠ ("endunless" : Text)) :
    lineTag line = line ∨ ∃ v b s, line = v ++ ' ' :: (b ++ s) ∧ lineTag line = v ++ ' ' :: s ∧
      v ≠ [] ∧ s ≠ [] ∧ (∀ c ∈ v, Unicode.isWord c = true) ∧ ∀ c ∈ b, Text.isBlank c = true := by
  have hne : line.takeWhile (· ≠ ' ') ≠ [] := by
    cases hl : line with
    | nil => exact absurd hl hline.ne_nil
    | cons c t =>
        have hc : c ≠ ' ' := by
          rintro rfl
          cases Text.head?_of_trim hline.trimmed ' ' (by rw [hl]; rfl)
        simp [hc]
  rw [lineTag_eq hne hwords]
  -- A line without a space is kept as it is, and one with a space loses blanks behind its first
  -- word at most.
  rcases eq_takeWhile_or line with ⟨hrest, heq⟩ | ⟨r, hr, heq⟩
  · left
    rw [hrest]
    exact heq.symm
  · obtain ⟨hrest, hblank⟩ := trim_behind_space (heq ▸ hline.trimmed)
    rw [hr, hrest, if_neg hblank]
    rcases hkeeps.keyword with hword | hspace
    · refine .inr ⟨_, r.takeWhile Text.isBlank, Text.trimStart r, ?_, rfl, hne, hblank, hword, ?_⟩
      · rw [Text.takeWhile_append_dropStart]
        exact heq
      · exact fun c hc => List.mem_takeWhile_imp hc
    · left
      rw [hr, hrest] at hspace
      rw [hspace]
      exact heq.symm

theorem IsTagLine.inline (h : IsTagLine line) : Inline line := by
  refine ⟨h.noTagEnd, fun c hc => ?_⟩
  have hend := isLineEnd_of_lines h.single c hc
  constructor
  · rintro rfl
    cases hend
  · rintro rfl
    cases hend

/-- Blanks behind the word that a tag begins with do not matter to what it stands for. -/
theorem exists_reads_respaced {v b s w : Text} {ks : List Token.Kind} {stmt : Stmt} (hne : v ≠ [])
    (hv : ∀ c ∈ v, Unicode.isWord c = true) (hb : ∀ c ∈ b, Text.isBlank c = true)
    (hs : Inline (v ++ ' ' :: s)) (hraw : Text.trim (v ++ ' ' :: s) ≠ ("raw" : Text))
    (h : Reads (v ++ ' ' :: (b ++ s)) w ks stmt) : ∃ w', Reads (v ++ ' ' :: s) w' ks stmt := by
  have hword := isWord_renamedWord hv
  have hne' := renamedWord_ne_nil hne
  obtain ⟨q, hq⟩ := exists_prepared_word hv hne s
  have hw := h.prepared.unique (hq b hb)
  subst hw
  obtain ⟨w', hw', hinside, hhead, hinline, htrim⟩ := exists_prepared_inside hs hraw
  have hw'' := hw'.unique (hq [] fun c hc => absurd hc List.not_mem_nil)
  rw [List.nil_append] at hw''
  subst hw''
  refine ⟨_, hw', ⟨hhead, hinline.noBreak, rawBegin?_eq_none hinside htrim, fun z => ?_⟩, h.stands⟩
  have hall := h.tokenised.lexes z
  simp only [List.cons_append, List.append_assoc] at hall ⊢
  have hbehind := hall.behind_blank rfl
  rw [trimStart_word hword hne'] at hbehind
  refine .blank (fun _ => rfl) rfl ?_
  rw [trimStart_word hword hne']
  exact hbehind.respace hword hb

theorem trim_word_space {v s : Text} (hne : v ≠ []) (hv : ∀ c ∈ v, Unicode.isWord c = true)
    (hs : s ≠ []) (hlast : ∀ c ∈ s.getLast?, Text.isBlank c = false) :
    Text.trim (v ++ ' ' :: s) = v ++ ' ' :: s := by
  refine Text.trim_eq_self (fun c hc => ?_) fun c hc => hlast c ?_
  · rw [List.head?_append_of_ne_nil _ hne] at hc
    exact Unicode.isBlank_of_isWord (hv c (List.mem_of_head? hc))
  · obtain ⟨u, x, rfl⟩ := List.eq_nil_or_concat s |>.resolve_left hs
    simpa [List.getLast?_append, List.getLast?_cons] using hc

/-- A line that is parsed alone is read as the same statement among others. -/
theorem exists_reads_lineTag (hline : IsTagLine line) (hkeeps : KeepsMeaning line) {t : Template}
    (h : parse (wrapTag line) = .ok t) :
    ∃ w ks stmt, Reads (lineTag line) w ks stmt ∧ t.body = [stmt] := by
  have hraw : Text.trim line ≠ ("raw" : Text) := hline.trimmed.symm ▸ hkeeps.noRaw
  obtain ⟨w, ks, stmt, hreads, hbody⟩ := exists_reads_of_parse hline.inline hraw hkeeps.noLineTag h
  rcases lineTag_cases hline hkeeps (takeWhile_ne_of_reads hreads) with
    heq | ⟨v, b, s, rfl, htag, hne, hs, hv, hb⟩
  · exact ⟨w, ks, stmt, heq.symm ▸ hreads, hbody⟩
  · have hlast : ∀ c ∈ s.getLast?, Text.isBlank c = false := by
      intro c hc
      refine Text.getLast?_of_trim hline.trimmed c ?_
      rw [← List.cons_append, ← List.append_assoc]
      exact List.mem_getLast?_append_of_mem_getLast? hc
    have hinline : Inline (v ++ ' ' :: s) := by
      have hsuffix : s <:+ v ++ ' ' :: (b ++ s) :=
        (List.suffix_append b s).trans ((List.suffix_cons ' ' _).trans (List.suffix_append v _))
      have hrest := hline.inline.of_infix hsuffix.isInfix
      exact inline_append.2
        ⟨inline_word hv, inline_append.2 ⟨inline_space, hrest, by simp⟩, by simp⟩
    have hraw' : Text.trim (v ++ ' ' :: s) ≠ ("raw" : Text) := by
      rw [trim_word_space hne hv hs hlast]
      intro heq
      have hmem : ' ' ∈ ("raw" : Text) := heq ▸ List.mem_append_right v List.mem_cons_self
      exact absurd hmem (by decide)
    obtain ⟨w', hreads'⟩ := exists_reads_respaced hne hv hb hinline hraw' hreads
    exact ⟨w', ks, stmt, htag.symm ▸ hreads', hbody⟩

end Among

/-! ## All lines -/

section All

variable {rows : List Row} {tail : Text} {templates : List Template}

/-- What the tags of the lines are read as. -/
theorem exists_reads_rows (hlines : ∀ r ∈ rows, IsTagLine r.line)
    (hkeeps : ∀ r ∈ rows, KeepsMeaning r.line)
    (h : List.Forall₂ (fun r t => parse (wrapTag r.line) = .ok t) rows templates) :
    ∃ tags : List (Text × List Token.Kind),
      List.Forall₂ (fun r p => Prepared (lineTag r.line) p.1) rows tags ∧
      (∀ p ∈ tags, Tokenised p.1 p.2) ∧
      List.Forall₂ Stands (tags.map Prod.snd) (templates.flatMap Template.body) := by
  induction h with
  | nil => exact ⟨[], .nil, by simp, .nil⟩
  | @cons r t rows templates hparse _ ih =>
      obtain ⟨w, ks, stmt, hreads, hbody⟩ :=
        exists_reads_lineTag (hlines r List.mem_cons_self) (hkeeps r List.mem_cons_self) hparse
      obtain ⟨tags, hprepared, htokenised, hstands⟩ :=
        ih (fun r' hr' => hlines r' (List.mem_cons_of_mem r hr'))
          fun r' hr' => hkeeps r' (List.mem_cons_of_mem r hr')
      refine ⟨(w, ks) :: tags, .cons hreads.prepared hprepared, ?_, ?_⟩
      · intro p hp
        rcases List.mem_cons.1 hp with rfl | hp
        · exact hreads.tokenised
        · exact htokenised p hp
      · rw [List.flatMap_cons, hbody]
        exact .cons hreads.stands hstands

/-- Tags one after another are prepared one by one. -/
theorem callFilters_flatMap {tags : List (Text × List Token.Kind)}
    (h : List.Forall₂ (fun r p => Prepared (lineTag r.line) p.1) rows tags) (z : Text) :
    callFilters (renameIncludes ((rows.flatMap fun r => wrapTag (lineTag r.line)) ++ z)) =
      (tags.flatMap fun p => tagText p.1) ++ callFilters (renameIncludes z) := by
  induction h with
  | nil => rfl
  | @cons r p rows tags hp _ ih =>
      rw [List.flatMap_cons, List.append_assoc, hp, ih, List.flatMap_cons]
      simp [tagText]

/-- A tag that holds nothing but a name. -/
def nameTag (w : Text) : Text × List Token.Kind :=
  (' ' :: (w ++ [' ']), [.name w])

theorem prepared_nameTag {w : Text} (hw : ∀ c ∈ w, Unicode.isWord c = true) (hne : w ≠ [])
    (hrenamed : renamedWord w = w) : Prepared w (nameTag w).1 := by
  have hprepared := prepared_word hw hne
  rwa [hrenamed] at hprepared

theorem tokenised_nameTag {w : Text} (hw : ∀ c ∈ w, Unicode.isWord c = true) (hne : w ≠ [])
    (hraw : w ≠ ("raw" : Text)) (hname : lexemeAt false [] w = (.name w, [], [])) :
    Tokenised (nameTag w).1 (nameTag w).2 := by
  have hinline := inline_word hw
  have htrim : Text.trim (' ' :: (w ++ [' '])) = w := by
    rw [Text.trim_spaced]
    exact Text.trim_eq_self (fun c hc => Unicode.isBlank_of_isWord (hw c (List.mem_of_head? hc)))
      fun c hc => Unicode.isBlank_of_isWord (hw c (List.mem_of_getLast? hc))
  refine ⟨rfl, hinline.spaced.noBreak, rawBegin?_eq_none hinline.inside_spaced (htrim.symm ▸ hraw),
    fun z => ?_⟩
  have hlexeme := lexemeAt_append hname rfl ('%' :: '}' :: z)
  have hend : Lexes (decide (w.getLast? = some '.')) [] (' ' :: '%' :: '}' :: z) [.blockEnd] z :=
    .blank (fun _ => rfl) rfl (.stop rfl)
  simp only [nameTag, List.cons_append, List.append_assoc]
  refine .blank (fun _ => rfl) rfl ?_
  rw [trimStart_word hw hne]
  refine .token (fun _ => blockEnd?_word hw) rfl hne ?_ hlexeme rfl hend
  exact fun x hx => Unicode.isBlank_of_isWord (hw x (List.mem_of_head? hx))

theorem parse_of_tokens {source : Text} {ts : List Token} {t : Template}
    (hts : tokens (prepare source) = ts) (h : Parse.run template ts = .ok t) :
    parse source = .ok t := by
  rw [parse, hts, h]

/-- A tag that holds lines is the sequence of its lines: where every line is parsed alone, the tag
is parsed, and it is a scope of what the lines are, in their order. -/
theorem parse_lineTagText (hlaid : Laid rows tail) (hkeeps : ∀ r ∈ rows, KeepsMeaning r.line)
    (h : List.Forall₂ (fun r t => parse (wrapTag r.line) = .ok t) rows templates) :
    parse (lineTagText rows tail) = .ok ⟨[.scope (templates.flatMap Template.body)]⟩ := by
  obtain ⟨tags, hprepared, htokenised, hstands⟩ := exists_reads_rows hlaid.line hkeeps h
  have hopen := prepared_nameTag (w := "liquid") (List.all_eq_true.1 (by decide)) (by decide) rfl
  have hclose :=
    prepared_nameTag (w := "endliquid") (List.all_eq_true.1 (by decide)) (by decide) rfl
  have hprepare : prepare (lineTagText rows tail) =
      (nameTag "liquid" :: (tags ++ [nameTag "endliquid"])).flatMap fun p => tagText p.1 := by
    rw [prepare, expandLineTags_lineTagText hlaid, List.append_assoc, hopen,
      callFilters_flatMap hprepared, hclose.eq_tagText, List.flatMap_cons, List.flatMap_append,
      List.flatMap_singleton, tagText, tagText]
    simp
  have hall : ∀ p ∈ nameTag "liquid" :: (tags ++ [nameTag "endliquid"]), Tokenised p.1 p.2 := by
    intro p hp
    simp only [List.mem_cons, List.mem_append, List.not_mem_nil, or_false] at hp
    rcases hp with rfl | hp | rfl
    · exact tokenised_nameTag (List.all_eq_true.1 (by decide)) (by decide) (by decide) rfl
    · exact htokenised p hp
    · exact tokenised_nameTag (List.all_eq_true.1 (by decide)) (by decide) (by decide) rfl
  have hend : tagTokens (nameTag "endliquid").2 ++ onLine [.eof] =
      onLine [.blockBegin, .name "endliquid", .blockEnd, .eof] := rfl
  have hrun := run_lineTags hstands
  rw [List.flatMap_map, ← hend, ← List.append_assoc] at hrun
  rw [parse, hprepare, tokens_tags (List.cons_ne_nil _ _) hall, List.flatMap_cons,
    List.flatMap_append, List.flatMap_singleton, ← List.append_assoc]
  exact hrun

/-- An assignment, with two spaces behind its word, and a printed value, with two spaces in a
literal. -/
theorem parse_lineTagText_assignAndEcho :
    parse (lineTagText [⟨"\n  ", "assign  x = 1"⟩, ⟨"\n", "echo x | append: 'a  b'"⟩] "\n") =
      .ok ⟨[.scope [.assign (.name ("x" : Text) .store) (.constant (.integer 1)),
        .output [.filter (some (.name ("x" : Text) .load)) ("append" : Text)
          ⟨[.constant (.string ("a  b" : Text))], [], none, none⟩]]]⟩ := by
  have hassign : parse (wrapTag "assign  x = 1") =
      .ok ⟨[.assign (.name ("x" : Text) .store) (.constant (.integer 1))]⟩ := by
    have htokens : tokens (prepare (wrapTag "assign  x = 1")) = onLine [.blockBegin, .name "assign",
        .name "x", .operator .assign, .integer 1, .blockEnd, .eof] := by decide +kernel
    exact parse_of_tokens htokens (by with_unfolding_all rfl)
  have hecho : parse (wrapTag "echo x | append: 'a  b'") =
      .ok ⟨[.output [.filter (some (.name ("x" : Text) .load)) ("append" : Text)
        ⟨[.constant (.string ("a  b" : Text))], [], none, none⟩]]⟩ := by
    have htokens : tokens (prepare (wrapTag "echo x | append: 'a  b'")) = onLine [.blockBegin,
        .name "echo", .name "x", .operator .pipe, .name "append", .operator .leftParen,
        .string "a  b", .operator .rightParen, .blockEnd, .eof] := by decide +kernel
    exact parse_of_tokens htokens (by with_unfolding_all rfl)
  have hlines : List.Forall₂ (fun (r : Row) t => parse (wrapTag r.line) = .ok t)
      [⟨"\n  ", "assign  x = 1"⟩, ⟨"\n", "echo x | append: 'a  b'"⟩] _ :=
    .cons hassign (.cons hecho .nil)
  have hlaid : Laid [⟨"\n  ", "assign  x = 1"⟩, ⟨"\n", "echo x | append: 'a  b'"⟩] "\n" := by
    decide +kernel
  exact parse_lineTagText hlaid (by decide +kernel) hlines

end All

end Template
end LiquidMarkdown
