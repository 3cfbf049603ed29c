import LiquidMarkdown.Proofs.Template.Rewriting

/-!
# A tag that holds lines

How the lines of a tag are found in it.  This file defines:

* `IsTagLine` — a line that can stand in a tag of lines;
* `Row`, `rowsText` — lines behind blanks;
* `Laid` — rows of which each stands on a line of its own;
* `lineTagText` — the tag of such rows.

The tag is taken apart into its lines, with delimiters around every one
(`expandLineTags_lineTagText`).
-/

namespace LiquidMarkdown
namespace Template

/-! ## Lines of a text -/

/-- The lines of a text without the blanks around them, where `line` holds the reversed beginning of
the first one. -/
def trimmedLines (line t : Text) : List Text :=
  ((Text.linesFrom line t).map Text.trim).filter (· ≠ [])

section Lines

variable {acc b t u : Text} {c : Char}

/-- The line that is open, if it is not blank. -/
def openLine (acc : Text) : List Text :=
  [Text.trim acc.reverse].filter (· ≠ [])

theorem trimmedLines_nil (acc : Text) : trimmedLines acc [] = openLine acc := by
  rw [trimmedLines, Text.linesFrom]
  split
  · next h =>
      subst h
      rfl
  · rfl

theorem linesFrom_lineEnd (hc : Text.isLineEnd c = true) (acc t : Text) :
    Text.linesFrom acc (c :: t) = acc.reverse :: Text.linesFrom [] t ∨
      ∃ cs, c = '\r' ∧ t = '\n' :: cs ∧
        Text.linesFrom acc (c :: t) = acc.reverse :: Text.linesFrom [] cs := by
  by_cases h : ∃ cs, c = '\r' ∧ t = '\n' :: cs
  · obtain ⟨cs, rfl, rfl⟩ := h
    exact .inr ⟨cs, rfl, rfl, Text.linesFrom.eq_2 acc cs⟩
  · refine .inl ?_
    rw [Text.linesFrom.eq_3 _ _ _ fun cs hc ht => h ⟨cs, hc, ht⟩, if_pos hc]

theorem trimmedLines_of_linesFrom (acc' : Text) {t' : Text}
    (h : Text.linesFrom acc t = acc'.reverse :: Text.linesFrom [] t') :
    trimmedLines acc t = openLine acc' ++ trimmedLines [] t' := by
  rw [trimmedLines, h, List.map_cons, ← List.singleton_append, List.filter_append]
  rfl

theorem trimmedLines_lineEnd (hc : Text.isLineEnd c = true) (acc t : Text) :
    trimmedLines acc (c :: t) = openLine acc ++ trimmedLines [] t := by
  rcases linesFrom_lineEnd hc acc t with h | ⟨cs, -, rfl, h⟩
  · exact trimmedLines_of_linesFrom acc h
  · -- A carriage return and a line feed are one end of a line; the line between them is blank.
    have hfeed : trimmedLines [] ('\n' :: cs) = trimmedLines [] cs := by
      rcases linesFrom_lineEnd (c := '\n') rfl [] cs with h | ⟨_, hreturn, -⟩
      · exact trimmedLines_of_linesFrom [] h
      · cases hreturn
    rw [hfeed]
    exact trimmedLines_of_linesFrom acc h

theorem linesFrom_cons (hc : Text.isLineEnd c = false) (acc t : Text) :
    Text.linesFrom acc (c :: t) = Text.linesFrom (c :: acc) t := by
  have hreturn : ∀ cs, c = '\r' → t = '\n' :: cs → False := by
    rintro cs rfl
    cases hc
  rw [Text.linesFrom.eq_3 _ _ _ hreturn, if_neg (Bool.not_eq_true _ ▸ hc)]

theorem trimmedLines_cons (hc : Text.isLineEnd c = false) (acc t : Text) :
    trimmedLines acc (c :: t) = trimmedLines (c :: acc) t := by
  rw [trimmedLines, linesFrom_cons hc, trimmedLines]

theorem trimmedLines_append (hu : ∀ c ∈ u, Text.isLineEnd c = false) (acc t : Text) :
    trimmedLines acc (u ++ t) = trimmedLines (u.reverse ++ acc) t := by
  induction u generalizing acc with
  | nil => rfl
  | cons c u ih =>
      rw [List.cons_append, trimmedLines_cons (hu c List.mem_cons_self),
        ih fun x hx => hu x (List.mem_cons_of_mem c hx), List.reverse_cons, List.append_assoc,
        List.singleton_append]

/-- A text that is its only line has no end of a line. -/
theorem isLineEnd_of_lines (h : Text.lines t = [t]) : ∀ c ∈ t, Text.isLineEnd c = false := by
  -- The first line goes up to the first end of a line.
  have hfirst : ∀ u : Text, (∃ c ∈ u, Text.isLineEnd c = true) →
      ∀ acc, ∃ l ls, Text.linesFrom acc u = l :: ls ∧ l.length < acc.length + u.length := by
    intro u hu
    induction u with
    | nil =>
        obtain ⟨c, hc, -⟩ := hu
        cases hc
    | cons c u ih =>
        intro acc
        cases hc : Text.isLineEnd c with
        | true =>
            rcases linesFrom_lineEnd hc acc u with h | ⟨_, -, -, h⟩ <;>
              exact ⟨_, _, h, by simp⟩
        | false =>
            have hu' : ∃ c ∈ u, Text.isLineEnd c = true := by
              obtain ⟨x, hx, hxend⟩ := hu
              rcases List.mem_cons.1 hx with rfl | hx
              · rw [hc] at hxend
                cases hxend
              · exact ⟨x, hx, hxend⟩
            obtain ⟨l, ls, hl, hlen⟩ := ih hu' (c :: acc)
            rw [List.length_cons] at hlen
            exact ⟨l, ls, (linesFrom_cons hc acc u).trans hl, by rw [List.length_cons]; omega⟩
  intro c hc
  refine Bool.eq_false_iff.2 fun hend => ?_
  obtain ⟨l, ls, hl, hlen⟩ := hfirst t ⟨c, hc, hend⟩ []
  cases h.symm.trans hl
  simp at hlen

/-- Blanks at the start of a line are of no account. -/
theorem trimmedLines_indent (hb : ∀ c ∈ b, Text.isBlank c = true) (acc t : Text) :
    trimmedLines (acc ++ b) t = trimmedLines acc t := by
  have hopen (acc : Text) : openLine (acc ++ b) = openLine acc := by
    have hb' : ∀ c ∈ b.reverse, Text.isBlank c = true := fun c hc => hb c (List.mem_reverse.1 hc)
    rw [openLine, List.reverse_append, Text.trim_append_left hb', openLine]
  induction t generalizing acc with
  | nil => rw [trimmedLines_nil, trimmedLines_nil, hopen]
  | cons c t ih =>
      cases hc : Text.isLineEnd c with
      | true => rw [trimmedLines_lineEnd hc, trimmedLines_lineEnd hc, hopen]
      | false => rw [trimmedLines_cons hc, trimmedLines_cons hc, ← List.cons_append, ih]

theorem trimmedLines_blank (hb : ∀ c ∈ b, Text.isBlank c = true) (t : Text) :
    trimmedLines [] (b ++ t) = trimmedLines [] t := by
  induction b with
  | nil => rfl
  | cons c b ih =>
      have hrest := ih fun x hx => hb x (List.mem_cons_of_mem c hx)
      cases hc : Text.isLineEnd c with
      | true =>
          rw [List.cons_append, trimmedLines_lineEnd hc, hrest]
          rfl
      | false =>
          have hindent := trimmedLines_indent (b := [c]) (by simpa using hb c List.mem_cons_self) []
            (b ++ t)
          rw [List.cons_append, trimmedLines_cons hc, ← hrest, ← hindent]
          rfl

/-- A line ends at the blanks behind it, where they open a new line or nothing follows them. -/
theorem trimmedLines_gap (hb : ∀ c ∈ b, Text.isBlank c = true)
    (hend : t = [] ∨ ∃ c ∈ b, Text.isLineEnd c = true) (acc : Text) :
    trimmedLines acc (b ++ t) = openLine acc ++ trimmedLines [] t := by
  induction b generalizing acc with
  | nil =>
      rcases hend with rfl | ⟨c, hc, -⟩
      · rw [List.append_nil, trimmedLines_nil, trimmedLines_nil]
        simp [openLine, Text.trimAll, Text.dropStart, Text.dropEnd]
      · cases hc
  | cons c b ih =>
      have hrest : ∀ x ∈ b, Text.isBlank x = true := fun x hx => hb x (List.mem_cons_of_mem c hx)
      cases hc : Text.isLineEnd c with
      | true => rw [List.cons_append, trimmedLines_lineEnd hc, trimmedLines_blank hrest]
      | false =>
          have hend' : t = [] ∨ ∃ c ∈ b, Text.isLineEnd c = true := by
            refine hend.imp_right ?_
            rintro ⟨x, hx, hxend⟩
            rcases List.mem_cons.1 hx with rfl | hx
            · rw [hc] at hxend
              cases hxend
            · exact ⟨x, hx, hxend⟩
          have hopen : openLine (c :: acc) = openLine acc := by
            rw [openLine, List.reverse_cons, Text.trim_append_right (by simp [hb]), openLine]
          rw [List.cons_append, trimmedLines_cons hc, ih hrest hend', hopen]

end Lines

/-! ## Rows -/

/-- A line that can stand in a tag of lines: one line without blanks around it, with no end of a tag
in it, that is no comment. -/
@[mk_iff]
structure IsTagLine (line : Text) : Prop where
  trimmed : Text.trim line = line
  ne_nil : line ≠ []
  single : Text.lines line = [line]
  noTagEnd : ¬ HoldsTagEnd line
  noComment : line.head? ≠ some '#'

instance : DecidablePred IsTagLine := fun line => decidable_of_iff _ (isTagLine_iff line).symm

/-- A line and the blanks before it. -/
structure Row where
  gap : Text
  line : Text

/-- The rows one behind another. -/
def rowsText (rows : List Row) : Text :=
  rows.flatMap fun r => r.gap ++ r.line

/-- The rows, and the blanks behind them, can be read as the lines of a tag: every row but the first
begins on a new line, and the dash of the end of the tag is not the last of a line. -/
@[mk_iff]
structure Laid (rows : List Row) (tail : Text) : Prop where
  line : ∀ r ∈ rows, IsTagLine r.line
  gap : ∀ r ∈ rows, r.gap ≠ [] ∧ ∀ c ∈ r.gap, Text.isBlank c = true
  newLine : ∀ r ∈ rows.tail, ∃ c ∈ r.gap, Text.isLineEnd c = true
  behind : ∀ c ∈ tail, Text.isBlank c = true
  noDash : (rowsText rows ++ tail).getLast? ≠ some '-'

instance (rows : List Row) (tail : Text) : Decidable (Laid rows tail) :=
  decidable_of_iff ((∀ r ∈ rows, IsTagLine r.line) ∧
    (∀ r ∈ rows, r.gap ≠ [] ∧ r.gap.all Text.isBlank = true) ∧
    (∀ r ∈ rows.tail, r.gap.any Text.isLineEnd = true) ∧ tail.all Text.isBlank = true ∧
    (rowsText rows ++ tail).getLast? ≠ some '-')
    (by simp only [laid_iff, List.all_eq_true, List.any_eq_true])

namespace Laid

variable {r : Row} {rows : List Row} {tail : Text}

theorem rowsText_cons (r : Row) (rows : List Row) :
    rowsText (r :: rows) = r.gap ++ r.line ++ rowsText rows :=
  List.flatMap_cons

theorem of_cons (h : Laid (r :: rows) tail) : Laid rows tail where
  line r hr := h.line r (List.mem_cons_of_mem _ hr)
  gap r hr := h.gap r (List.mem_cons_of_mem _ hr)
  newLine r hr := h.newLine r (List.mem_of_mem_tail hr)
  behind := h.behind
  noDash hlast := h.noDash (by
    rw [rowsText_cons, List.append_assoc, List.getLast?_append, hlast]
    rfl)

/-- Behind a line stand blanks, with the end of a line if another row follows. -/
theorem exists_behind (h : Laid (r :: rows) tail) : ∃ b t, rowsText rows ++ tail = b ++ t ∧
    (∀ c ∈ b, Text.isBlank c = true) ∧ (t = [] ∨ ∃ c ∈ b, Text.isLineEnd c = true) := by
  cases rows with
  | nil => exact ⟨tail, [], (List.append_nil tail).symm, h.behind, .inl rfl⟩
  | cons r' rows =>
      refine ⟨r'.gap, r'.line ++ (rowsText rows ++ tail), ?_, ?_, .inr ?_⟩
      · rw [rowsText_cons, List.append_assoc, List.append_assoc]
      · exact (h.gap r' (List.mem_cons_of_mem r List.mem_cons_self)).2
      · exact h.newLine r' List.mem_cons_self

theorem trimmedLines_rowsText (h : Laid rows tail) :
    trimmedLines [] (rowsText rows ++ tail) = rows.map Row.line := by
  induction rows with
  | nil =>
      have hblank := trimmedLines_blank h.behind []
      rw [List.append_nil] at hblank
      exact hblank
  | cons r rows ih =>
      have hline := h.line r List.mem_cons_self
      have hgap := (h.gap r List.mem_cons_self).2
      obtain ⟨b, t, hbehind, hb, hend⟩ := h.exists_behind
      have hopen : openLine (r.line.reverse ++ []) = [r.line] := by
        simp [openLine, hline.trimmed, hline.ne_nil]
      rw [rowsText_cons, List.append_assoc, List.append_assoc, trimmedLines_blank hgap,
        trimmedLines_append (isLineEnd_of_lines hline.single), hbehind,
        trimmedLines_gap hb hend, hopen,
        ← trimmedLines_blank hb, ← hbehind, ih h.of_cons]
      rfl

/-- The lines of the rows are the lines that hold a tag. -/
theorem tagLines_rowsText (h : Laid rows tail) :
    tagLines (rowsText rows ++ tail) = rows.map Row.line := by
  have hfilter : tagLines (rowsText rows ++ tail) =
      (trimmedLines [] (rowsText rows ++ tail)).filter fun line => line.head? ≠ some '#' := by
    rw [trimmedLines, List.filter_filter, tagLines, Text.lines]
    exact List.filter_congr fun line _ => Bool.and_comm _ _
  rw [hfilter, h.trimmedLines_rowsText, List.filter_eq_self]
  intro line hline
  obtain ⟨r, hr, rfl⟩ := List.mem_map.1 hline
  simpa using (h.line r hr).noComment

theorem head?_rowsText (h : Laid rows tail) :
    ∀ c ∈ (rowsText rows ++ tail).head?, Text.isBlank c = true := by
  intro c hc
  cases rows with
  | nil => exact h.behind c (List.mem_of_head? hc)
  | cons r rows =>
      obtain ⟨hne, hgap⟩ := h.gap r List.mem_cons_self
      rw [rowsText_cons, List.append_assoc, List.append_assoc,
        List.head?_append_of_ne_nil _ hne] at hc
      exact hgap c (List.mem_of_head? hc)

theorem not_holdsTagEnd_blank {b : Text} (hb : ∀ c ∈ b, Text.isBlank c = true) :
    ¬ HoldsTagEnd b := by
  rintro ⟨u, v, rfl⟩
  cases hb '%' (by simp)

/-- No end of a tag occurs among the rows. -/
theorem not_holdsTagEnd_rowsText (h : Laid rows tail) : ¬ HoldsTagEnd (rowsText rows ++ tail) := by
  induction rows with
  | nil => exact not_holdsTagEnd_blank h.behind
  | cons r rows ih =>
      have hgap := (h.gap r List.mem_cons_self).2
      rw [rowsText_cons, List.append_assoc, holdsTagEnd_append, holdsTagEnd_append]
      rintro ((hend | hend | ⟨hpercent, -⟩) | hend | ⟨-, hbrace⟩)
      · exact not_holdsTagEnd_blank hgap hend
      · exact (h.line r List.mem_cons_self).noTagEnd hend
      · cases hgap _ (List.mem_of_getLast? hpercent)
      · exact ih h.of_cons hend
      · cases h.of_cons.head?_rowsText _ hbrace

end Laid

/-- A tag ends at the first end of a tag. -/
theorem breakAtTagEnd_eq {t : Text} (ht : ¬ HoldsTagEnd t) (hdash : t.getLast? ≠ some '-') :
    breakAtTagEnd (t ++ ['%', '}']) = some (t, [], []) := by
  have hbrace : ∀ u r : Text, u ++ ['%', '}'] = '}' :: r → ∃ v, u = '}' :: v := by
    intro u r h
    cases u with
    | nil => cases (List.cons.inj h).1
    | cons c u => exact ⟨u, congrArg (· :: u) (List.cons.inj h).1⟩
  unfold breakAtTagEnd
  rw [Option.map_eq_some_iff]
  refine ⟨(t, [], []), ?_, rfl⟩
  induction t with
  | nil => rfl
  | cons c t ih =>
      have hends : ¬ HoldsTagEnd t := fun hend => ht (hend.trans (List.suffix_cons c t).isInfix)
      have hlast : t.getLast? ≠ some '-' := by
        intro hlast
        rw [List.getLast?_cons, hlast] at hdash
        exact hdash rfl
      rw [List.cons_append, breakAt, ih hends hlast]
      split
      · next a ha =>
          split at ha
          · next r heq =>
              -- The dash would have to stand before the end of the tag, or a tag end in the text.
              obtain ⟨rfl, htail⟩ := List.cons.inj heq
              cases t with
              | nil => exact absurd rfl hdash
              | cons d t =>
                  obtain ⟨hd, hbehind⟩ := List.cons.inj htail
                  obtain ⟨v, rfl⟩ := hbrace t _ hbehind
                  exact absurd ⟨['-'], v, by rw [hd]; rfl⟩ ht
          · next r heq =>
              obtain ⟨rfl, htail⟩ := List.cons.inj heq
              obtain ⟨v, rfl⟩ := hbrace t _ htail
              exact absurd ⟨[], v, rfl⟩ ht
          · cases ha
      · rfl

/-- A tag that holds the rows. -/
def lineTagText (rows : List Row) (tail : Text) : Text :=
  ("\x7b% liquid" : Text) ++ rowsText rows ++ tail ++ ['%', '}']

theorem lineTagsAt_eq (t : Text) : lineTagsAt t =
    (Text.dropPrefix? ['{', '%'] t).bind fun inside =>
      (dropWord? "liquid" (Text.trimStart (takeDash inside).2)).bind fun text =>
        (breakAtTagEnd text).bind fun r =>
          some (['{', '%'] ++ (takeDash inside).1 ++ " liquid " ++ ['%', '}'] ++
            ((tagLines r.1).flatMap fun line => wrapTag (lineTag line)) ++ ['{', '%'] ++
            " endliquid " ++ r.2.1 ++ ['%', '}'], r.2.2) :=
  rfl

/-- The text behind the word of a tag of lines. -/
theorem dropWord?_liquid {t : Text} (ht : ∀ c ∈ t.head?, Unicode.isWord c = false) :
    dropWord? "liquid" (("liquid" : Text) ++ t) = some t := by
  have hdrop : Text.dropPrefix? "liquid" (("liquid" : Text) ++ t) = some t :=
    Text.dropPrefix?_eq_some.2 rfl
  unfold dropWord?
  rw [hdrop]
  cases t with
  | nil => rfl
  | cons c t => exact if_neg (Bool.not_eq_true _ ▸ ht c rfl)

/-- A tag of rows is found as a whole, with the tags of its lines in its place. -/
theorem lineTagsAt_lineTagText {rows : List Row} {tail : Text} (h : Laid rows tail) :
    lineTagsAt (lineTagText rows tail) = some (wrapTag "liquid" ++
      (rows.flatMap fun r => wrapTag (lineTag r.line)) ++ wrapTag "endliquid", []) := by
  have hassoc (a b c d : Text) : a ++ b ++ c ++ d = a ++ (b ++ c ++ d) := by
    simp only [List.append_assoc]
  have htext : lineTagText rows tail =
      ("\x7b% liquid" : Text) ++ (rowsText rows ++ tail ++ ['%', '}']) := hassoc _ _ _ _
  have hhead : ∀ c ∈ (rowsText rows ++ tail ++ ['%', '}']).head?, Unicode.isWord c = false := by
    intro c hc
    rw [List.head?_append] at hc
    cases hrows : (rowsText rows ++ tail).head? with
    | none =>
        rw [hrows] at hc
        cases hc
        rfl
    | some d =>
        rw [hrows] at hc
        cases hc
        exact Unicode.isWord_of_isBlank (h.head?_rowsText c hrows)
  generalize hbody : rowsText rows ++ tail = body at htext hhead
  -- Each of the steps that take a tag of lines apart, from the opening delimiter on.
  have hopen : Text.dropPrefix? ['{', '%'] (("\x7b% liquid" : Text) ++ (body ++ ['%', '}'])) =
      some (' ' :: (("liquid" : Text) ++ (body ++ ['%', '}']))) := rfl
  have hdash : takeDash (' ' :: (("liquid" : Text) ++ (body ++ ['%', '}']))) =
      ([], ' ' :: (("liquid" : Text) ++ (body ++ ['%', '}']))) := rfl
  have htrim : Text.trimStart (' ' :: (("liquid" : Text) ++ (body ++ ['%', '}']))) =
      ("liquid" : Text) ++ (body ++ ['%', '}']) := rfl
  have hbreak : breakAtTagEnd (body ++ ['%', '}']) = some (body, [], []) :=
    breakAtTagEnd_eq (hbody ▸ h.not_holdsTagEnd_rowsText) (hbody ▸ h.noDash)
  have htags : (tagLines body).flatMap (fun line => wrapTag (lineTag line)) =
      rows.flatMap fun r => wrapTag (lineTag r.line) := by
    rw [← hbody, h.tagLines_rowsText, List.flatMap_map]
  have hfirst :
      ['{', '%'] ++ [] ++ (" liquid " : Text) ++ ['%', '}'] = wrapTag "liquid" := by decide
  have hlast (t : Text) : t ++ ['{', '%'] ++ (" endliquid " : Text) ++ [] ++ ['%', '}'] =
      t ++ wrapTag "endliquid" := by
    have hend :
        ['{', '%'] ++ (" endliquid " : Text) ++ ['%', '}'] = wrapTag "endliquid" := by decide
    rw [List.append_nil, hassoc, hend]
  rw [lineTagsAt_eq, htext, hopen, Option.bind_some, hdash, htrim, dropWord?_liquid hhead,
    Option.bind_some, hbreak, Option.bind_some, htags, hfirst, hlast]

/-- A tag of rows is taken apart into the tags of its lines. -/
theorem expandLineTags_lineTagText {rows : List Row} {tail : Text} (h : Laid rows tail) :
    expandLineTags (lineTagText rows tail) = wrapTag "liquid" ++
      (rows.flatMap fun r => wrapTag (lineTag r.line)) ++ wrapTag "endliquid" := by
  have hlt : 0 < (lineTagText rows tail).length :=
    List.length_pos_of_ne_nil (List.append_ne_nil_of_right_ne_nil _ (List.cons_ne_nil _ _))
  have hnil : rewriteAll (.ofFunction lineTagsAt) [] = [] := by rw [rewriteAll]
  have hrewrite := rewriteAll_of_some (lineTagsAt_lineTagText h) hlt
  rw [hnil, List.append_nil] at hrewrite
  exact hrewrite

end Template
end LiquidMarkdown
