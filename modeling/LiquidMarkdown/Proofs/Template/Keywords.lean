import LiquidMarkdown.Proofs.Template.LineTags

/-!
# Keywords of the lines of a tag

A line of a tag of lines may begin with a word that stands for another.  The word is found by
cutting the line at its first space, which need not stand right behind it.  This file defines:

* `WordLine` — a first word, the spaces and tabs behind it, and the rest of the line;
* `WordLine.IsTag` — a tag that says what the line says, with any spaces and tabs behind its first
  word;
* `WordLine.SetOff` — the first word is set off by a space, or it stands for no other and nothing is
  lost where the line is cut.

A tag of such lines is the sequence of their tags just in case the first word of each is set off
(`expandLineTags_wordLines`).
-/

namespace LiquidMarkdown
namespace Template

/-! ## Tags one behind another -/

/-- Where no end of a tag occurs inside, a text begins with one tag at most. -/
theorem wrapTag_append_inj {a b x y : Text} (ha : ¬ HoldsTagEnd a) (hb : ¬ HoldsTagEnd b)
    (h : wrapTag a ++ x = wrapTag b ++ y) : a = b ∧ x = y := by
  -- A longer inside would hold the end of the shorter one.
  have hlonger {c d x y : Text} (hend : ¬ HoldsTagEnd (c ++ d))
      (h : [' ', '%', '}'] ++ y = d ++ ([' ', '%', '}'] ++ x)) : d = [] := by
    match d with
    | [] => rfl
    | [_] => simp at h
    | [_, _] => simp at h
    | p :: q :: r :: d =>
        simp only [List.cons_append, List.nil_append, List.cons.injEq] at h
        obtain ⟨rfl, rfl, rfl, -⟩ := h
        exact absurd ⟨c ++ [' '], d, by simp⟩ hend
  have h' : a ++ ([' ', '%', '}'] ++ x) = b ++ ([' ', '%', '}'] ++ y) := by
    simpa [wrapTag] using h
  rcases List.append_eq_append_iff.1 h' with ⟨d, rfl, hd⟩ | ⟨d, rfl, hd⟩
  · cases hlonger hb hd
    exact ⟨(List.append_nil a).symm, List.append_cancel_left hd⟩
  · cases hlonger ha hd
    exact ⟨List.append_nil b, (List.append_cancel_left hd).symm⟩

theorem inline_lineTag {line : Text} (h : Inline line) : Inline (lineTag line) := by
  have hword := h.of_infix (List.takeWhile_prefix (· ≠ ' ')).isInfix
  have hrest := h.of_infix
    ((FilterArguments.infix_trim _).trans (List.dropWhile_suffix (· ≠ ' ')).isInfix)
  have hjoin {v r : Text} (hv : Inline v) (hr : Inline r) :
      Inline (Text.joinWith [' '] ([v, r].filter (· ≠ []))) := by
    have hspaced := inline_append.2 ⟨hv, inline_append.2 ⟨inline_space, hr, by simp⟩, by simp⟩
    by_cases hv' : v = [] <;> by_cases hr' : r = [] <;>
      simp_all [Text.joinWith, List.intercalate_cons_cons]
  unfold lineTag
  dsimp only
  split
  · have hopen : Inline ("if not (" : Text) := by decide
    have hclose : Inline (")" : Text) := by decide
    exact inline_append.2 ⟨inline_append.2 ⟨hopen, hrest, by simp⟩, hclose, by simp⟩
  · refine hjoin ?_ hrest
    split
    · decide
    · split
      · decide
      · exact hword

/-! ## Lines that begin with a word -/

/-- A line: its first word, the spaces and tabs behind it, and the rest. -/
structure WordLine where
  word : Text
  gap : Text
  rest : Text

namespace WordLine

variable {l : WordLine} {t : Text}

/-- The line as it is written. -/
def text (l : WordLine) : Text :=
  l.word ++ l.gap ++ l.rest

/-- The parts are those of a line: a word alone, which is not the one that asks for a condition, or
a word set off by spaces and tabs from a rest that begins with no blank. -/
@[mk_iff]
structure WellFormed (l : WordLine) : Prop where
  isWord : ∀ c ∈ l.word, Unicode.isWord c = true
  word_ne_nil : l.word ≠ []
  gap : ∀ c ∈ l.gap, c = ' ' ∨ c = '\t'
  lone : l.gap = [] ↔ l.rest = []
  rest : ∀ c ∈ l.rest.head?, Text.isBlank c = false
  condition : l.word = ("unless" : Text) → l.rest ≠ []

instance : DecidablePred WellFormed := fun l =>
  decidable_of_iff (l.word.all Unicode.isWord = true ∧ l.word ≠ [] ∧
    l.gap.all (fun c => c = ' ' ∨ c = '\t') = true ∧ (l.gap = [] ↔ l.rest = []) ∧
    l.rest.head?.all (Text.isBlank · = false) = true ∧ (l.word = ("unless" : Text) → l.rest ≠ []))
    (by simp only [wellFormed_iff, List.all_eq_true, Option.all_eq_true, Option.mem_def,
      decide_eq_true_eq])

/-- The word that the first word of the line stands for. -/
def tagWord (l : WordLine) : Text :=
  if l.word = ("unless" : Text) then "if"
  else if l.word = ("elsif" : Text) then "elif"
  else if l.word = ("endunless" : Text) then "endif"
  else l.word

/-- What stands behind that word in a tag: a condition that must not hold is negated. -/
def tagRest (l : WordLine) : Text :=
  if l.word = ("unless" : Text) then ("not (" : Text) ++ l.rest ++ ")" else l.rest

/-- The inside of the tag of a line, whatever spaces and tabs stand behind its first word. -/
def IsTag (l : WordLine) (t : Text) : Prop :=
  ∃ gap : Text, (∀ c ∈ gap, c = ' ' ∨ c = '\t') ∧ (gap = [] ↔ l.gap = []) ∧
    t = l.tagWord ++ gap ++ l.tagRest

/-- No tab stands right behind the first word; or the word stands for itself, and a space comes
before the rest, or the first space in the rest is neither doubled nor followed by another blank. -/
def SetOff (l : WordLine) : Prop :=
  l.gap.head? = some '\t' → l.tagWord = l.word ∧ (' ' ∈ l.gap ∨
    Text.trim (l.rest.dropWhile (· ≠ ' ')) = (l.rest.dropWhile (· ≠ ' ')).drop 1)

instance : DecidablePred SetOff := fun _ => inferInstanceAs (Decidable (_ → _ ∧ (_ ∨ _)))

/-! ### The parts of a line -/

theorem word_ne_of_tagWord (h : l.tagWord = l.word) : l.word ≠ ("unless" : Text) ∧
    l.word ≠ ("elsif" : Text) ∧ l.word ≠ ("endunless" : Text) := by
  refine ⟨?_, ?_, ?_⟩ <;>
    · intro hword
      rw [tagWord, hword] at h
      exact absurd h (by decide)

theorem tagRest_of_tagWord (h : l.tagWord = l.word) : l.tagRest = l.rest :=
  if_neg (word_ne_of_tagWord h).1

theorem isBlank_of_gap {g : Text} (h : ∀ c ∈ g, c = ' ' ∨ c = '\t') :
    ∀ c ∈ g, Text.isBlank c = true := by
  intro c hc
  rcases h c hc with rfl | rfl <;> rfl

theorem space_not_mem_of_isWord {w : Text} (h : ∀ c ∈ w, Unicode.isWord c = true) : ' ' ∉ w := by
  intro hmem
  exact absurd (h ' ' hmem) (by decide)

theorem takeWhile_append_space {w : Text} (hw : ' ' ∉ w) (t : Text) :
    (w ++ t).takeWhile (· ≠ ' ') = w ++ t.takeWhile (· ≠ ' ') ∧
      (w ++ t).dropWhile (· ≠ ' ') = t.dropWhile (· ≠ ' ') := by
  have hw' : ∀ c ∈ w, decide (c ≠ ' ') = true :=
    fun c hc => decide_eq_true (ne_of_mem_of_not_mem hc hw)
  exact ⟨List.takeWhile_append_of_pos hw', List.dropWhile_append_of_pos hw'⟩

namespace WellFormed

theorem isWord_tagWord (h : l.WellFormed) : ∀ c ∈ l.tagWord, Unicode.isWord c = true := by
  unfold tagWord
  split
  · exact List.all_eq_true.1 (by decide)
  · split
    · exact List.all_eq_true.1 (by decide)
    · split
      · exact List.all_eq_true.1 (by decide)
      · exact h.isWord

theorem trim_rest (h : l.WellFormed) (htrim : Text.trim l.text = l.text) :
    Text.trim l.rest = l.rest :=
  Text.trim_eq_self h.rest fun c hc =>
    Text.getLast?_of_trim htrim c (List.mem_getLast?_append_of_mem_getLast? hc)

/-- Blanks before the rest are trimmed away. -/
theorem trim_gap_rest (h : l.WellFormed) (htrim : Text.trim l.text = l.text) {g : Text}
    (hg : ∀ c ∈ g, c = ' ' ∨ c = '\t') : Text.trim (g ++ l.rest) = l.rest := by
  rw [Text.trim_append_left (isBlank_of_gap hg), h.trim_rest htrim]

/-- The first word of a tag, where something stands behind it. -/
theorem takeWhile_isTag (h : l.WellFormed) (hgap : l.gap ≠ []) (ht : l.IsTag t) :
    t.takeWhile Unicode.isWord = l.tagWord := by
  obtain ⟨g, hg, hiff, rfl⟩ := ht
  obtain ⟨c, g, rfl⟩ := List.exists_cons_of_ne_nil (mt hiff.1 hgap)
  have hc : ¬ Unicode.isWord c = true := by
    rcases hg c List.mem_cons_self with rfl | rfl <;> decide
  rw [List.append_assoc, List.takeWhile_append_of_pos h.isWord_tagWord, List.cons_append,
    List.takeWhile_cons_of_neg hc, List.append_nil]

theorem inline_of_isTag (h : l.WellFormed) (htext : Inline l.text) (ht : l.IsTag t) : Inline t := by
  obtain ⟨g, hg, -, rfl⟩ := ht
  have hrest : Inline l.rest := htext.of_infix (List.suffix_append _ _).isInfix
  have hgap : Inline g := by
    refine ⟨fun hend => ?_, fun c hc => ?_⟩
    · rcases hg '%' (hend.subset List.mem_cons_self) with hc | hc <;> cases hc
    · rcases hg c hc with rfl | rfl <;> decide
  have htagRest : Inline l.tagRest := by
    unfold tagRest
    split
    · have hopen : Inline ("not (" : Text) := by decide
      have hclose : Inline (")" : Text) := by decide
      exact inline_append.2 ⟨inline_append.2 ⟨hopen, hrest, by simp⟩, hclose, by simp⟩
    · exact hrest
  have hnot {s : Text} (hs : '%' ∉ s) {r : Text} : ¬ (s.getLast? = some '%' ∧ r.head? = some '}') :=
    fun hends => hs (List.mem_of_getLast? hends.1)
  have hword : '%' ∉ l.tagWord := fun hmem => absurd (h.isWord_tagWord '%' hmem) (by decide)
  have hboth : '%' ∉ l.tagWord ++ g := by
    intro hmem
    rcases List.mem_append.1 hmem with hmem | hmem
    · exact hword hmem
    · rcases hg '%' hmem with hc | hc <;> cases hc
  exact inline_append.2 ⟨inline_append.2 ⟨inline_word h.isWord_tagWord, hgap, hnot hword⟩, htagRest,
    hnot hboth⟩

/-! ### The tag of a line -/

/-- Without a tab behind its first word, a line is cut right behind that. -/
theorem cut_of_space (h : l.WellFormed) (htrim : Text.trim l.text = l.text)
    (hgap : l.gap.head? ≠ some '\t') :
    l.text.takeWhile (· ≠ ' ') = l.word ∧ Text.trim (l.text.dropWhile (· ≠ ' ')) = l.rest := by
  obtain ⟨htake, hdrop⟩ :=
    takeWhile_append_space (space_not_mem_of_isWord h.isWord) (l.gap ++ l.rest)
  rw [← List.append_assoc] at htake hdrop
  rw [text, htake, hdrop]
  cases hg : l.gap with
  | nil =>
      rw [h.lone.1 hg]
      exact ⟨List.append_nil _, rfl⟩
  | cons c g =>
      have hc : c = ' ' := by
        rw [hg] at hgap
        exact (h.gap c (hg ▸ List.mem_cons_self)).resolve_right fun hc => hgap (congrArg some hc)
      subst hc
      have hcut : (' ' :: g ++ l.rest).takeWhile (· ≠ ' ') = [] ∧
          (' ' :: g ++ l.rest).dropWhile (· ≠ ' ') = ' ' :: g ++ l.rest := ⟨rfl, rfl⟩
      rw [hcut.1, hcut.2]
      exact ⟨List.append_nil _, h.trim_gap_rest htrim (hg ▸ h.gap)⟩

/-- A line that is cut right behind its first word has the tag that it should have. -/
theorem lineTag_of_space (h : l.WellFormed) (htrim : Text.trim l.text = l.text)
    (hgap : l.gap.head? ≠ some '\t') :
    lineTag l.text = l.tagWord ++ (if l.rest = [] then [] else [' ']) ++ l.tagRest := by
  obtain ⟨hword, hrest⟩ := h.cut_of_space htrim hgap
  unfold lineTag tagWord tagRest
  rw [hword, hrest]
  dsimp only
  by_cases hunless : l.word = ("unless" : Text)
  · rw [if_pos hunless, if_pos hunless, if_pos hunless, if_neg (h.condition hunless)]
    rfl
  · rw [if_neg hunless, if_neg hunless, if_neg hunless]
    generalize hkey : (if l.word = ("elsif" : Text) then ("elif" : Text)
      else if l.word = ("endunless" : Text) then "endif" else l.word) = key
    have hne : key ≠ [] := by
      rw [← hkey]
      split
      · decide
      · split
        · decide
        · exact h.word_ne_nil
    split
    · next hr => simp [hr, hne, Text.joinWith]
    · next hr => simp [hr, hne, Text.joinWith, List.intercalate_cons_cons]

/-- Behind a tab the word is not found, and the line is kept up to its first space. -/
theorem lineTag_of_tab (h : l.WellFormed) {g : Text} (hgap : l.gap = '\t' :: g) :
    lineTag l.text =
      if Text.trim ((g ++ l.rest).dropWhile (· ≠ ' ')) = [] then
        l.word ++ '\t' :: (g ++ l.rest).takeWhile (· ≠ ' ')
      else l.word ++ '\t' :: (g ++ l.rest).takeWhile (· ≠ ' ') ++
        ' ' :: Text.trim ((g ++ l.rest).dropWhile (· ≠ ' ')) := by
  have htext : l.text = l.word ++ '\t' :: (g ++ l.rest) := by
    rw [text, hgap, List.append_assoc, List.cons_append]
  obtain ⟨htake, hdrop⟩ := takeWhile_append_space (space_not_mem_of_isWord h.isWord)
    ('\t' :: (g ++ l.rest))
  have hcons :
      ('\t' :: (g ++ l.rest)).takeWhile (· ≠ ' ') = '\t' :: (g ++ l.rest).takeWhile (· ≠ ' ') ∧
      ('\t' :: (g ++ l.rest)).dropWhile (· ≠ ' ') = (g ++ l.rest).dropWhile (· ≠ ' ') := ⟨rfl, rfl⟩
  rw [hcons.1, ← htext] at htake
  rw [hcons.2, ← htext] at hdrop
  have htab : '\t' ∈ l.text.takeWhile (· ≠ ' ') := by
    rw [htake]
    simp
  have hne {w : Text} (hw : '\t' ∉ w) : l.text.takeWhile (· ≠ ' ') ≠ w := by
    rintro rfl
    exact hw htab
  rw [lineTag_eq (hne List.not_mem_nil) ⟨hne (by decide), hne (by decide), hne (by decide)⟩,
    htake, hdrop]

theorem isTag_of_space (h : l.WellFormed) (htrim : Text.trim l.text = l.text)
    (hgap : l.gap.head? ≠ some '\t') : l.IsTag (lineTag l.text) := by
  refine ⟨_, ?_, ?_, h.lineTag_of_space htrim hgap⟩
  · split <;> simp
  · rw [h.lone]
    split
    · next hr => simp [hr]
    · next hr => simp [hr]

/-- A word that stands for another is not replaced before a tab. -/
theorem tagWord_of_isTag (h : l.WellFormed) {g : Text} (hgap : l.gap = '\t' :: g)
    (ht : l.IsTag (lineTag l.text)) : l.tagWord = l.word := by
  have hne : l.gap ≠ [] := hgap ▸ List.cons_ne_nil _ _
  have htab : ¬ Unicode.isWord '\t' = true := by decide
  have hword (t : Text) : (l.word ++ '\t' :: t).takeWhile Unicode.isWord = l.word := by
    rw [List.takeWhile_append_of_pos h.isWord, List.takeWhile_cons_of_neg htab, List.append_nil]
  rw [← h.takeWhile_isTag hne ht, h.lineTag_of_tab hgap]
  split
  · exact hword _
  · rw [List.append_assoc, List.cons_append]
    exact hword _

/-- Where a space follows the tab, the line is cut in the blanks behind its first word. -/
theorem isTag_of_space_mem (h : l.WellFormed) (htrim : Text.trim l.text = l.text) {g : Text}
    (hgap : l.gap = '\t' :: g) (hword : l.tagWord = l.word) (hspace : ' ' ∈ g) :
    l.IsTag (lineTag l.text) := by
  have hne : l.gap ≠ [] := hgap ▸ List.cons_ne_nil _ _
  have hg : ∀ c ∈ g, c = ' ' ∨ c = '\t' := fun c hc =>
    h.gap c (hgap ▸ List.mem_cons_of_mem '\t' hc)
  obtain ⟨g₁, g₂, rfl, hfirst⟩ := List.eq_append_cons_of_mem hspace
  obtain ⟨htake, hdrop⟩ := takeWhile_append_space hfirst (' ' :: (g₂ ++ l.rest))
  have hcons : (' ' :: (g₂ ++ l.rest)).takeWhile (· ≠ ' ') = [] ∧
      (' ' :: (g₂ ++ l.rest)).dropWhile (· ≠ ' ') = ' ' :: g₂ ++ l.rest := ⟨rfl, rfl⟩
  rw [hcons.1, List.append_nil] at htake
  rw [hcons.2] at hdrop
  have hrest : Text.trim (' ' :: g₂ ++ l.rest) = l.rest :=
    h.trim_gap_rest htrim fun c hc => hg c (List.mem_append_right g₁ hc)
  have hassoc : g₁ ++ ' ' :: g₂ ++ l.rest = g₁ ++ ' ' :: (g₂ ++ l.rest) := by
    rw [List.append_assoc, List.cons_append]
  rw [h.lineTag_of_tab hgap, hassoc, htake, hdrop, hrest, if_neg (mt h.lone.2 hne)]
  refine ⟨'\t' :: (g₁ ++ [' ']), ?_, by simp [hne], ?_⟩
  · intro c hc
    rcases List.mem_cons.1 hc with rfl | hc
    · exact .inr rfl
    · rcases List.mem_append.1 hc with hc | hc
      · exact hg c (List.mem_append_left _ hc)
      · exact .inl (List.mem_singleton.1 hc)
  · rw [hword, tagRest_of_tagWord hword]
    simp

/-- Where only tabs come before the rest, the line is cut in the rest: what is kept of it is all of
it just in case nothing is stripped at its first space. -/
theorem exists_lineTag_of_tabs (h : l.WellFormed) (htrim : Text.trim l.text = l.text) {g : Text}
    (hgap : l.gap = '\t' :: g) (hspace : ' ' ∉ g) :
    ∃ s, lineTag l.text = l.word ++ l.gap ++ (l.rest.takeWhile (· ≠ ' ') ++ s) ∧
      (s = l.rest.dropWhile (· ≠ ' ') ↔
        Text.trim (l.rest.dropWhile (· ≠ ' ')) = (l.rest.dropWhile (· ≠ ' ')).drop 1) := by
  obtain ⟨htake, hdrop⟩ := takeWhile_append_space hspace l.rest
  rw [h.lineTag_of_tab hgap, htake, hdrop, hgap]
  rcases eq_takeWhile_or l.rest with ⟨hnil, -⟩ | ⟨r, hr, heq⟩
  · rw [hnil]
    exact ⟨[], by simp [Text.trimAll, Text.dropStart, Text.dropEnd],
      by simp [Text.trimAll, Text.dropStart, Text.dropEnd]⟩
  · have htrimmed := h.trim_rest htrim
    rw [heq] at htrimmed
    obtain ⟨hbehind, hblank⟩ := trim_behind_space htrimmed
    rw [hr, hbehind, if_neg hblank]
    exact ⟨' ' :: Text.trimStart r, by simp, by simp⟩

/-- What is kept of the rest before its first space begins with no blank. -/
theorem isBlank_head?_takeWhile (h : l.WellFormed) (hne : l.rest ≠ []) (s : Text) :
    ∀ c ∈ (l.rest.takeWhile (· ≠ ' ') ++ s).head?, Text.isBlank c = false := by
  obtain ⟨c, r, hr⟩ := List.exists_cons_of_ne_nil hne
  have hc : Text.isBlank c = false := h.rest c (by rw [hr]; rfl)
  have hshown : c ≠ ' ' := by
    rintro rfl
    cases hc
  have htake : (c :: r).takeWhile (· ≠ ' ') = c :: r.takeWhile (· ≠ ' ') :=
    List.takeWhile_cons_of_pos (decide_eq_true hshown)
  rw [hr, htake, List.cons_append]
  rintro _ ⟨⟩
  exact hc

theorem isTag_iff_of_tabs (h : l.WellFormed) (htrim : Text.trim l.text = l.text) {g : Text}
    (hgap : l.gap = '\t' :: g) (hword : l.tagWord = l.word) (hspace : ' ' ∉ g) :
    l.IsTag (lineTag l.text) ↔
      Text.trim (l.rest.dropWhile (· ≠ ' ')) = (l.rest.dropWhile (· ≠ ' ')).drop 1 := by
  have hne : l.rest ≠ [] := mt h.lone.2 (hgap ▸ List.cons_ne_nil _ _)
  obtain ⟨s, hs, hiff⟩ := h.exists_lineTag_of_tabs htrim hgap hspace
  rw [← hiff, hs]
  have hrest := List.takeWhile_append_dropWhile (p := (· ≠ ' ')) (l := l.rest)
  constructor
  · rintro ⟨g', hg', -, heq⟩
    rw [hword, tagRest_of_tagWord hword, List.append_assoc, List.append_assoc,
      List.append_cancel_left_eq] at heq
    -- The blanks of the two texts may differ; neither begins with a blank behind them.
    have hsame : l.rest.takeWhile (· ≠ ' ') ++ s = l.rest := by
      rw [← Text.dropStart_append (isBlank_of_gap h.gap) (h.isBlank_head?_takeWhile hne s), heq,
        Text.dropStart_append (isBlank_of_gap hg') h.rest]
    exact List.append_cancel_left (hsame.trans hrest.symm)
  · rintro rfl
    refine ⟨l.gap, h.gap, Iff.rfl, ?_⟩
    rw [hrest, hword, tagRest_of_tagWord hword]

/-- A line has the tag that it should have just in case its first word is set off. -/
theorem isTag_lineTag_iff (h : l.WellFormed) (htrim : Text.trim l.text = l.text) :
    l.IsTag (lineTag l.text) ↔ l.SetOff := by
  by_cases hgap : l.gap.head? = some '\t'
  · obtain ⟨g, hg⟩ := List.head?_eq_some_iff.1 hgap
    constructor
    · intro ht hhead
      have hword := h.tagWord_of_isTag hg ht
      refine ⟨hword, or_iff_not_imp_left.2 fun hspace => ?_⟩
      exact (h.isTag_iff_of_tabs htrim hg hword fun hmem =>
        hspace (hg ▸ List.mem_cons_of_mem _ hmem)).1 ht
    · intro hoff
      obtain ⟨hword, hcut⟩ := hoff hgap
      by_cases hspace : ' ' ∈ g
      · exact h.isTag_of_space_mem htrim hg hword hspace
      · refine (h.isTag_iff_of_tabs htrim hg hword hspace).2 (hcut.resolve_left ?_)
        rw [hg, List.mem_cons, not_or]
        exact ⟨by decide, hspace⟩
  · exact iff_of_true (h.isTag_of_space htrim hgap) fun hhead => absurd hhead hgap

end WellFormed

end WordLine

/-! ## All lines -/

section All

variable {rows : List (Text × WordLine)} {tail : Text}

/-- The rows as they are written. -/
def wordRows (rows : List (Text × WordLine)) : List Row :=
  rows.map fun p => ⟨p.1, p.2.text⟩

/-- Tags one behind another are the tags of the lines only if each is the tag of its line. -/
theorem eq_lineTags {tags : List Text} {x : Text}
    (hrows : ∀ p ∈ rows, p.2.WellFormed ∧ Inline p.2.text)
    (htags : List.Forall₂ (fun p t => p.2.IsTag t) rows tags)
    (h : (rows.flatMap fun p => wrapTag (lineTag p.2.text)) ++ x = tags.flatMap wrapTag ++ x) :
    ∀ p ∈ rows, p.2.IsTag (lineTag p.2.text) := by
  induction htags with
  | nil => exact fun p hp => absurd hp List.not_mem_nil
  | @cons p t rows tags ht _ ih =>
      obtain ⟨hwell, hinline⟩ := hrows p List.mem_cons_self
      rw [List.flatMap_cons, List.flatMap_cons, List.append_assoc, List.append_assoc] at h
      obtain ⟨hfirst, hrest⟩ := wrapTag_append_inj (inline_lineTag hinline).noTagEnd
        (hwell.inline_of_isTag hinline ht).noTagEnd h
      intro q hq
      rcases List.mem_cons.1 hq with rfl | hq
      · exact hfirst ▸ ht
      · exact ih (fun p hp => hrows p (List.mem_cons_of_mem _ hp)) hrest q hq

/-- A tag that holds lines is the sequence of the tags of its lines, each with its first word
replaced, just in case every first word is set off. -/
theorem expandLineTags_wordLines (hlaid : Laid (wordRows rows) tail)
    (hwell : ∀ p ∈ rows, p.2.WellFormed) :
    (∃ tags, List.Forall₂ (fun p t => p.2.IsTag t) rows tags ∧
      expandLineTags (lineTagText (wordRows rows) tail) =
        wrapTag "liquid" ++ tags.flatMap wrapTag ++ wrapTag "endliquid") ↔
      ∀ p ∈ rows, p.2.SetOff := by
  have hline : ∀ p ∈ rows, IsTagLine p.2.text := fun p hp =>
    hlaid.line ⟨p.1, p.2.text⟩ (List.mem_map_of_mem hp)
  have hiff : (∀ p ∈ rows, p.2.IsTag (lineTag p.2.text)) ↔ ∀ p ∈ rows, p.2.SetOff :=
    forall₂_congr fun p hp => (hwell p hp).isTag_lineTag_iff (hline p hp).trimmed
  rw [expandLineTags_lineTagText hlaid, wordRows, List.flatMap_map, ← hiff]
  constructor
  · rintro ⟨tags, htags, heq⟩
    rw [List.append_assoc, List.append_assoc, List.append_cancel_left_eq] at heq
    exact eq_lineTags (fun p hp => ⟨hwell p hp, (hline p hp).inline⟩) htags heq
  · intro h
    refine ⟨rows.map fun p => lineTag p.2.text, ?_, by rw [List.flatMap_map]⟩
    exact List.forall₂_map_right_iff.2 (List.forall₂_same.2 h)

/-- A condition, a printed value behind a tab, another case, and the end. -/
def conditionRows : List (Text × WordLine) :=
  [("\n  ", ⟨"unless", " \t", "a"⟩), ("\n\t", ⟨"echo", "\t", "'x y'"⟩),
    ("\r\n", ⟨"elsif", " ", "b"⟩), ("\n", ⟨"endunless", [], []⟩)]

theorem expandLineTags_wordLines_conditionRows :
    Laid (wordRows conditionRows) "\n" ∧ (∀ p ∈ conditionRows, p.2.WellFormed) ∧
      ∃ tags, List.Forall₂ (fun p t => p.2.IsTag t) conditionRows tags ∧
        expandLineTags (lineTagText (wordRows conditionRows) "\n") =
          wrapTag "liquid" ++ tags.flatMap wrapTag ++ wrapTag "endliquid" := by
  have hlaid : Laid (wordRows conditionRows) "\n" := by decide +kernel
  have hwell : ∀ p ∈ conditionRows, p.2.WellFormed := by decide +kernel
  have hset : ∀ p ∈ conditionRows, p.2.SetOff := by decide +kernel
  exact ⟨hlaid, hwell, (expandLineTags_wordLines hlaid hwell).2 hset⟩

-- Before a tab, a word that stands for another is kept.
example : lineTag "elsif\tb" = "elsif\tb" ∧ ¬ (⟨"elsif", "\t", "b"⟩ : WordLine).SetOff := by
  decide

end All

end Template
end LiquidMarkdown
