import LiquidMarkdown.Proofs.Template.Contents
import LiquidMarkdown.Proofs.Template.Rewriting

/-!
# A tag that is a template of its own

From the text of a tag to its tokens and its statement.  This file defines:

* `Tokenised` — the inside of a tag has tokens of the given kinds, whatever stands behind the tag;
* `tagText` — the inside of a tag with its delimiters.

The tokens of several tags are those of each (`tokens_tags`), and a tag that is parsed alone has the
tokens of one statement (`exists_stands_of_run_tokens`).
-/

namespace LiquidMarkdown
namespace Template

/-! ## Raw sections -/

/-- Only the word for it opens a raw section. -/
theorem rawBegin?_eq_none {w : Text} (h : Inside w) (hw : Text.trim w ≠ ("raw" : Text)) (z : Text) :
    Delimiter.rawBegin? (w ++ '%' :: '}' :: z) = none := by
  have htrim (u : Text) :
      Text.trimStart (u ++ '%' :: '}' :: z) = Text.trimStart u ++ '%' :: '}' :: z :=
    Text.dropStart_append_of_head (fun c hc => by cases hc; rfl) u
  have hword : ∀ r, Delimiter.word? "raw" (w ++ '%' :: '}' :: z) = some r →
      Delimiter.blockEnd? r = none := by
    intro r hr
    obtain ⟨r', hr', rfl⟩ := Option.map_eq_some_iff.1 hr
    rw [htrim, Text.dropPrefix?_eq_some] at hr'
    have hstart : Inside (Text.trimStart w) := h.of_suffix (List.dropWhile_suffix _)
    rcases List.append_eq_append_iff.1 hr' with ⟨v, hraw, hv⟩ | ⟨v, hraw, rfl⟩
    · -- The text ends within the word, where it has no blank.
      by_cases hnil : Text.trimStart w = []
      · rw [hnil, List.nil_append] at hraw
        subst hraw
        cases (List.cons.inj hv).1
      · obtain ⟨u, hu⟩ := hstart.exists_eq_concat hnil
        have hmem : ' ' ∈ ("raw" : Text) := by simp [hraw, hu]
        exact absurd hmem (by decide)
    · rw [htrim]
      refine Inside.blockEnd?_append ?_ fun hnil => hw ?_
      · exact hstart.of_suffix ((List.dropWhile_suffix _).trans (hraw ▸ List.suffix_append _ _))
      · have hblank : ∀ c ∈ v, Text.isBlank c = true := List.dropWhile_eq_nil_iff.1 hnil
        rw [Text.trim, Text.trimAll, ← Text.trimStart, hraw, Text.dropEnd_append_of_forall hblank]
        decide
  unfold Delimiter.rawBegin?
  split
  · next r hr => cases hword _ hr
  · next r hr => cases hword _ hr
  · rfl

/-! ## The tokens of a tag -/

/-- The inside of a tag on one line that opens no raw section, with the kinds of its tokens,
whatever stands behind the tag. -/
structure Tokenised (w : Text) (ks : List Token.Kind) : Prop where
  head : w.head? = some ' '
  noBreak : ∀ c ∈ w, c ≠ '\n' ∧ c ≠ '\r'
  noRaw : ∀ z, Delimiter.rawBegin? (w ++ '%' :: '}' :: z) = none
  lexes : ∀ z, Lexes false [] (w ++ '%' :: '}' :: z) (ks ++ [.blockEnd]) z

/-- The inside of a tag with its delimiters. -/
def tagText (w : Text) : Text :=
  '{' :: '%' :: (w ++ ['%', '}'])

section Scan

open Grammar

/-- A tag begins a statement or opens a raw section. -/
theorem read?_tag (t : Text) : Delimiter.read? ('{' :: '%' :: t) = some
    ((Delimiter.rawBegin? (Delimiter.sign t).2).elim (.block, Delimiter.sign t)
      fun rest => (.raw, (Delimiter.sign t).1, rest)) := by
  rcases hsign : Delimiter.sign t with ⟨trims, r⟩
  cases hraw : Delimiter.rawBegin? r <;> simp [Delimiter.read?, hsign, hraw]

/-- A tag that opens no raw section is read as the beginning of a statement. -/
theorem scan_tag {c : Cursor} {t : Text} (hhead : t.head? = some ' ')
    (hraw : Delimiter.rawBegin? t = none) (hc : c.rest = '{' :: '%' :: t) :
    c.scan .text = ⟨c.line, .blockBegin⟩ :: (c.moveTo t).scan (.inside .block []) := by
  have hread : Delimiter.read? c.rest = some (.block, false, t) := by
    have hsign : Delimiter.sign t = (false, t) := by
      cases t with
      | nil => cases hhead
      | cons d t =>
          cases hhead
          rfl
    rw [hc, read?_tag, hsign, hraw, Option.elim_none]
  have hbreak : breakAt Delimiter.read? c.rest = some ([], .block, false, t) := by
    rw [hc, breakAt, ← hc, hread]
  have hstep : Cursor.step .text c = .next [⟨c.line, .blockBegin⟩] (.inside .block []) t := by
    rw [Cursor.step, Cursor.textStep, hbreak]
    rfl
  exact Cursor.scan_next hstep

theorem head?_append_tagEnd {w : Text} (h : w.head? = some ' ') (z : Text) :
    (w ++ '%' :: '}' :: z).head? = some ' ' :=
  List.mem_head?_append_of_mem_head? h

/-- The scan gives the tokens of a tag, and goes on behind it. -/
theorem scan_tagText {w z : Text} {ks : List Token.Kind} (h : Tokenised w ks) {c : Cursor}
    (hc : c.rest = tagText w ++ z) (hline : '\n' ∉ c.rest) : ∃ d : Cursor, d.rest = z ∧
      d.line = c.line ∧
      c.scan .text =
        (.blockBegin :: ks ++ [.blockEnd] : List Token.Kind).map (Token.mk c.line) ++
          d.scan .text := by
  have hc' : c.rest = ['{', '%'] ++ (w ++ '%' :: '}' :: z) := by simpa [tagText] using hc
  rw [hc', List.mem_append, not_or] at hline
  have hl := Cursor.line_moveTo hc' hline.1
  have hprevious : decide ((c.moveTo (w ++ '%' :: '}' :: z)).previous = '.') = false :=
    Cursor.decide_previous hc' (by simp)
  obtain ⟨d, hd, hdline, hscan⟩ := scan_of_lexes (h.lexes z) hline.2
    (c := c.moveTo (w ++ '%' :: '}' :: z)) rfl hprevious
  refine ⟨d, hd, hdline.trans hl, ?_⟩
  rw [scan_tag (head?_append_tagEnd h.head z) (h.noRaw z) hc', hscan, hl]
  rfl

/-- The scan gives the tokens of tags one after another. -/
theorem scan_flatMap_tagText {tags : List (Text × List Token.Kind)}
    (h : ∀ p ∈ tags, Tokenised p.1 p.2) {c : Cursor}
    (hc : c.rest = tags.flatMap fun p => tagText p.1) (hline : '\n' ∉ c.rest) (hone : c.line = 1) :
    c.scan .text = tags.flatMap fun p => tagTokens p.2 := by
  induction tags generalizing c with
  | nil =>
      have hstep : Cursor.step .text c = .last [] := by
        rw [Cursor.step, Cursor.textStep, hc]
        rfl
      rw [Cursor.scan, hstep]
      rfl
  | cons p tags ih =>
      rw [List.flatMap_cons] at hc
      obtain ⟨d, hd, hdline, hscan⟩ := scan_tagText (h p List.mem_cons_self) hc hline
      have hbehind := ih (fun q hq => h q (List.mem_cons_of_mem p hq)) hd
        (fun hmem => hline (hc ▸ List.mem_append_right _ (hd ▸ hmem))) (hdline.trans hone)
      rw [hscan, hbehind, hone]
      rfl

theorem normalizeNewlines_append {u : Text} (h : '\r' ∉ u) (t : Text) :
    Text.normalizeNewlines (u ++ t) = u ++ Text.normalizeNewlines t := by
  induction u with
  | nil => rfl
  | cons c u ih =>
      rw [List.mem_cons, not_or] at h
      have hreturn : ∀ cs, c = '\r' → u ++ t = '\n' :: cs → False := fun _ hc _ => h.1 hc.symm
      rw [List.cons_append, Text.normalizeNewlines.eq_3 _ _ hreturn, if_neg (Ne.symm h.1), ih h.2,
        List.cons_append]

theorem normalizeNewlines_eq_self {t : Text} (h : '\r' ∉ t) : Text.normalizeNewlines t = t := by
  have hend := normalizeNewlines_append h []
  rwa [List.append_nil, Text.normalizeNewlines, List.append_nil] at hend

/-- A text without line breaks is scanned as it is. -/
theorem tokens_eq {t : Text} (h : ∀ c ∈ t, c ≠ '\n' ∧ c ≠ '\r') :
    tokens t = closeTokens ((Cursor.start t).scan .text) := by
  have hnormal : Text.normalizeNewlines t = t :=
    normalizeNewlines_eq_self fun hmem => (h _ hmem).2 rfl
  have hfinal : dropFinalNewline t = t :=
    if_neg fun hlast => (h _ (List.mem_of_getLast? hlast)).1 rfl
  rw [tokens, hnormal, hfinal]

theorem noBreak_tagText {w : Text} (h : ∀ c ∈ w, c ≠ '\n' ∧ c ≠ '\r') :
    ∀ c ∈ tagText w, c ≠ '\n' ∧ c ≠ '\r' := by
  intro c hc
  simp only [tagText, List.mem_cons, List.mem_append, List.not_mem_nil, or_false] at hc
  rcases hc with rfl | rfl | hc | rfl | rfl
  · decide
  · decide
  · exact h c hc
  · decide
  · decide

/-- The tokens of tags one after another are those of each, and the end of the template. -/
theorem tokens_tags {tags : List (Text × List Token.Kind)} (hne : tags ≠ [])
    (h : ∀ p ∈ tags, Tokenised p.1 p.2) : tokens (tags.flatMap fun p => tagText p.1) =
      (tags.flatMap fun p => tagTokens p.2) ++ onLine [.eof] := by
  have hbreak : ∀ c ∈ tags.flatMap fun p => tagText p.1, c ≠ '\n' ∧ c ≠ '\r' := by
    intro c hc
    obtain ⟨p, hp, hc⟩ := List.mem_flatMap.1 hc
    exact noBreak_tagText (h p hp).noBreak c hc
  have hscan := scan_flatMap_tagText h (c := Cursor.start (tags.flatMap fun p => tagText p.1)) rfl
    (fun hmem => (hbreak _ hmem).1 rfl) rfl
  have hlast : (tags.flatMap fun p => tagTokens p.2).getLast? = some ⟨1, .blockEnd⟩ := by
    obtain ⟨tags', p, rfl⟩ := List.eq_nil_or_concat tags |>.resolve_left hne
    have htag : tagTokens p.2 = onLine (.blockBegin :: p.2) ++ onLine [.blockEnd] :=
      onLine_append ..
    rw [List.concat_eq_append, List.flatMap_append, List.flatMap_singleton, htag,
      List.getLast?_append,
      List.getLast?_append]
    rfl
  rw [tokens_eq hbreak, hscan, closeTokens, hlast]
  rfl

end Scan

/-! ## A tag that is parsed alone -/

section Alone

open Grammar

/-- Closing a token list adds no end of a tag. -/
theorem closeTokens_cons (n : Nat) (ts : List Token) : ∃ us, us ≠ [] ∧
    closeTokens (⟨n, .blockBegin⟩ :: ts) = ⟨n, .blockBegin⟩ :: us ∧
    ∀ m, ⟨m, .blockEnd⟩ ∈ us → ⟨m, .blockEnd⟩ ∈ ts := by
  unfold closeTokens
  split
  · next m cause hlast =>
      refine ⟨ts, ?_, rfl, fun _ hmem => hmem⟩
      rintro rfl
      cases hlast
  · next t _ hlast =>
      refine ⟨ts ++ [⟨t.line, .eof⟩], by simp, rfl, fun m hmem => ?_⟩
      rcases List.mem_append.1 hmem with hmem | hmem
      · exact hmem
      · cases List.mem_singleton.1 hmem
  · next hlast => cases List.getLast?_eq_none_iff.1 hlast

/-- A tag that is a template of its own has the tokens of one statement. -/
theorem exists_stands_of_run_tokens {w : Text} (hinside : Inside w) (hhead : w.head? = some ' ')
    (hbreak : ∀ c ∈ w, c ≠ '\n' ∧ c ≠ '\r') (hraw : Text.trim w ≠ ("raw" : Text)) {t : Template}
    (h : Parse.run template (tokens (tagText w)) = .ok t) :
    ∃ ks s, Tokenised w ks ∧ Stands ks s ∧ t.body = [s] := by
  have hnoRaw := rawBegin?_eq_none hinside hraw
  have hscan :=
    scan_tag (head?_append_tagEnd hhead []) (hnoRaw []) (c := Cursor.start (tagText w)) rfl
  obtain ⟨us, hne, hclosed, hend⟩ := closeTokens_cons 1
    (((Cursor.start (tagText w)).moveTo (w ++ ['%', '}'])).scan (.inside .block []))
  have htokens : tokens (tagText w) = ⟨1, .blockBegin⟩ :: us := by
    rw [tokens_eq (noBreak_tagText hbreak), hscan]
    exact hclosed
  -- The statement stops before an end of a tag, so the scan has found one.
  obtain ⟨s, left, x, rest, rest', hs, hx, -⟩ := exists_statement_of_run hne (htokens ▸ h)
  obtain ⟨n, vs, rfl, -⟩ := exists_blockEnd_of_expect hx
  have hmem := hend n ((drops_statement_below _ _ _ _ _ hs).subset List.mem_cons_self)
  obtain ⟨ks', r, hlexes⟩ := exists_lexes_of_mem_scan hmem
  have hprevious := Cursor.decide_previous (c := Cursor.start (tagText w)) (u := ['{', '%'])
    (t := w ++ ['%', '}']) rfl (by simp)
  rw [hprevious] at hlexes
  obtain ⟨-, hbehind⟩ := hlexes.append hinside
  obtain ⟨ks, rfl, hks⟩ := hlexes.eq_append_blockEnd
  have hw : Tokenised w ks := ⟨hhead, hbreak, hnoRaw, hbehind⟩
  have hall : tokens (tagText w) = onLine (.blockBegin :: ks ++ [.blockEnd, .eof]) := by
    have htags : tokens ([(w, ks)].flatMap fun p => tagText p.1) = _ :=
      tokens_tags (List.cons_ne_nil _ _) (by simpa using hw)
    simpa [tagTokens, onLine] using htags
  obtain ⟨s', hstands, hbody⟩ := exists_stands_of_run hks (hall ▸ h)
  exact ⟨ks, s', hw, hstands, hbody⟩

end Alone

end Template
end LiquidMarkdown
