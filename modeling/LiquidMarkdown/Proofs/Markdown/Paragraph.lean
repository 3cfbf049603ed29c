import LiquidMarkdown.Proofs.Markdown.Search
import Mathlib.Data.List.Chain

/-!
# Paragraphs

A paragraph is made up of runs of plain text, emphasised words and code.  A line break in a run
loses a blank before it and the indentation behind it.  This file defines:

* `Row`, `Run` — a line behind a line break, and a first line with the rows behind it;
* `Part` — a part of a paragraph, `Part.Proper` — that the parts can be told apart;
* `leaves` — the texts of a paragraph, with the places where they were written;
* `found` — the same texts, with the places where the search finds them;
* `Clear` — what is passed over on the way to a text does not hold it;
* `Part.IsWhole` — the part is shown as it is written, but for its delimiters.

The search finds all texts where they were written just in case the paragraph is clear
(`found_iff`), as it is where all parts are whole (`clear_of_isWhole`).
-/

namespace LiquidMarkdown
namespace Markdown
namespace Paragraph

/-! ## Runs -/

/-- Does the character delimit a part of a paragraph that is no run? -/
def isDelimiter (c : Char) : Bool :=
  c = '*' || c = '`'

/-- The text holds neither line feeds nor delimiters. -/
def IsPlain (t : Text) : Prop :=
  ∀ c ∈ t, c ≠ '\n' ∧ isDelimiter c = false

instance (t : Text) : Decidable (IsPlain t) :=
  List.decidableBAll (fun c => c ≠ '\n' ∧ isDelimiter c = false) t

/-- A line behind a line break, with what the break loses around the line feed. -/
structure Row where
  blank : Text := []
  indent : Text := []
  line : Text
  deriving DecidableEq, Repr

namespace Row

/-- The line break and the line, as they are written. -/
def written (r : Row) : Text :=
  r.blank ++ '\n' :: (r.indent ++ r.line)

/-- The line break and the line, as they are shown. -/
def shown (r : Row) : Text :=
  '\n' :: r.line

/-- One space at most is lost before the line feed, and all the indentation behind it. -/
structure Proper (r : Row) : Prop where
  blank : r.blank = [] ∨ r.blank = [' ']
  indent : ∀ c ∈ r.indent, isIndent c = true
  plain : IsPlain r.line
  head : ∀ c ∈ r.line.head?, isIndent c = false ∧ c ≠ '>'

theorem length_shown_le (rows : List Row) :
    (rows.flatMap shown).length ≤ (rows.flatMap written).length := by
  induction rows with
  | nil => exact Nat.le_refl _
  | cons row rows ih =>
      simp only [List.flatMap_cons, List.length_append, shown, written, List.length_cons]
      omega

/-- The line of a row is where the next line is looked for. -/
theorem nextLine?_eq {row : Row} (h : row.Proper) (pre : Text) {y : Text}
    (hy : ∀ c ∈ (row.line ++ y).head?, isIndent c = false ∧ c ≠ '>') :
    ∃ start, nextLine? (pre ++ (row.written ++ y)) pre.length = some start ∧
      row.line.OccursAt (pre ++ (row.written ++ y)) start ∧
        start + row.line.length = (pre ++ row.written).length := by
  have hblank : ∀ c ∈ row.blank, isIndent c = true := by
    rcases h.blank with hb | hb
    · simp [hb]
    · exact hb ▸ List.forall_mem_singleton.2 rfl
  have hwritten : pre ++ (row.written ++ y) =
      pre ++ (row.blank ++ '\n' :: (row.indent ++ (row.line ++ y))) := by
    simp [written]
  refine ⟨pre.length + row.blank.length + 1 + row.indent.length, ?_, ?_, ?_⟩
  · rw [hwritten]
    exact Markdown.nextLine?_eq hblank h.indent hy
  · refine ⟨pre ++ (row.blank ++ '\n' :: row.indent), y, by simp [written], ?_⟩
    simp only [List.length_append, List.length_cons]
    omega
  · simp only [written, List.length_append, List.length_cons]
    omega

end Row

/-- A run of text, by its lines. -/
structure Run where
  first : Text
  rows : List Row := []
  deriving DecidableEq, Repr

namespace Run

def written (r : Run) : Text :=
  r.first ++ r.rows.flatMap Row.written

def shown (r : Run) : Text :=
  r.first ++ r.rows.flatMap Row.shown

/-- What is lost before the first character that is shown. -/
def lead (r : Run) : Text :=
  if r.first = [] then (r.rows.head?.map Row.blank).getD [] else []

/-- The run from the first character on that is shown. -/
def body (r : Run) : Text :=
  r.written.drop r.lead.length

/-- The run is not empty, and none but its last line is. -/
structure Proper (r : Run) : Prop where
  ne_nil : r.shown ≠ []
  first : IsPlain r.first
  rows : ∀ row ∈ r.rows, row.Proper
  inner : ∀ row ∈ r.rows.dropLast, row.line ≠ []

/-- What is passed over on the way to the run ends with a delimiter and what the run loses, unless
the run comes first. -/
def Follows (r : Run) (skipped : Text) : Prop :=
  skipped = [] ∧ r.first ≠ [] ∨ ∃ u d, isDelimiter d = true ∧ skipped = u ++ d :: r.lead

/-- The run is not found before its place, where `skipped` is passed over and `z` stands behind it:
one in one piece is not in what is passed over, one that loses something is in one piece nowhere,
and its first line is not in what is passed over. -/
def Clear (r : Run) (skipped z : Text) : Prop :=
  if r.shown <+: r.body then ¬ r.shown <:+: skipped
  else ¬ r.first <:+: skipped ∧ ¬ r.shown <:+: skipped ++ (r.body ++ z)

/-- What is left of the run behind the place where the search goes on. -/
def behind (r : Run) : Text :=
  if r.shown <+: r.body then r.body.drop r.shown.length else []

variable {r : Run} {pre skipped z : Text}

theorem lead_append_body (r : Run) : r.lead ++ r.body = r.written := by
  obtain ⟨first, rows⟩ := r
  unfold body lead written
  by_cases hfirst : first = []
  · subst hfirst
    cases rows with
    | nil => rfl
    | cons row rows => simp [Row.written]
  · simp [hfirst]

theorem lead_of_ne_nil (h : r.first ≠ []) : r.lead = [] :=
  if_neg h

theorem body_of_ne_nil (h : r.first ≠ []) : r.body = r.first ++ r.rows.flatMap Row.written := by
  have hbody := r.lead_append_body
  rwa [lead_of_ne_nil h, List.nil_append] at hbody

theorem length_shown_le (r : Run) : r.shown.length ≤ r.body.length := by
  have hlength := congrArg List.length r.lead_append_body
  obtain ⟨first, rows⟩ := r
  simp only [lead, written, shown, List.length_append] at hlength ⊢
  by_cases hfirst : first = []
  · subst hfirst
    cases rows with
    | nil => exact Nat.zero_le _
    | cons row rows =>
        have hbehind := Row.length_shown_le rows
        simp [Row.shown, Row.written] at hlength hbehind ⊢
        omega
  · have hbehind := Row.length_shown_le rows
    rw [if_neg hfirst] at hlength
    simp only [List.length_nil] at hlength
    omega

theorem length_lead_le (h : r.Proper) : r.lead.length ≤ 1 := by
  obtain ⟨first, rows⟩ := r
  unfold lead
  split
  · cases rows with
    | nil => exact Nat.zero_le 1
    | cons row rows => rcases (h.rows row List.mem_cons_self).blank with hb | hb <;> simp [hb]
  · exact Nat.zero_le 1

theorem splitAt_shown (h : r.Proper) :
    Text.splitAt '\n' r.shown = r.first :: r.rows.map Row.line := by
  obtain ⟨first, rows⟩ := r
  have hfirst : '\n' ∉ first := fun hmem => (h.first _ hmem).1 rfl
  have hrows : ∀ row ∈ rows, '\n' ∉ row.line := fun row hrow hmem =>
    ((h.rows row hrow).plain _ hmem).1 rfl
  unfold shown
  clear h
  induction rows generalizing first with
  | nil => simpa using Text.splitAt_of_notMem hfirst
  | cons row rows ih =>
      rw [List.flatMap_cons, Row.shown, List.cons_append, Text.splitAt_append hfirst,
        ih row.line (hrows row List.mem_cons_self) fun x hx =>
          hrows x (List.mem_cons_of_mem row hx)]
      rfl

/-- The lines behind the first one are found one after another. -/
theorem locateLines?_rows {rows : List Row} (h : ∀ row ∈ rows, row.Proper)
    (hinner : ∀ row ∈ rows.dropLast, row.line ≠ [])
    (hz : ∀ c ∈ z.head?, isIndent c = false ∧ c ≠ '>') {source : Text}
    (hsource : source = pre ++ (rows.flatMap Row.written ++ z)) (index : Nat) :
    ∃ segments, locateLines? source source.length index pre.length (rows.map Row.line) =
      some (segments, pre.length + (rows.flatMap Row.written).length) := by
  induction rows generalizing pre index with
  | nil => exact ⟨[], rfl⟩
  | cons row rows ih =>
      have hrow := h row List.mem_cons_self
      have hy : ∀ c ∈ (row.line ++ (rows.flatMap Row.written ++ z)).head?,
          isIndent c = false ∧ c ≠ '>' := by
        cases hline : row.line with
        | nil =>
            -- A row without text is the last one.
            cases rows with
            | nil => exact hz
            | cons _ _ => exact absurd hline (hinner row List.mem_cons_self)
        | cons d line =>
            rintro c ⟨⟩
            exact hrow.head _ (by rw [hline]; rfl)
      have hinner' : ∀ x ∈ rows.dropLast, x.line ≠ [] := by
        intro x hx
        refine hinner x ?_
        cases rows with
        | nil => cases hx
        | cons _ _ => exact List.mem_cons_of_mem row hx
      have hwritten : source = pre ++ (row.written ++ (rows.flatMap Row.written ++ z)) := by
        rw [hsource, List.flatMap_cons, List.append_assoc]
      have hbehind : source = pre ++ row.written ++ (rows.flatMap Row.written ++ z) := by
        rw [hwritten, List.append_assoc]
      obtain ⟨start, hnext, hline, hstop⟩ := Row.nextLine?_eq hrow pre hy
      rw [← hwritten] at hnext hline
      obtain ⟨segments, hsegments⟩ :=
        ih (fun x hx => h x (List.mem_cons_of_mem row hx)) hinner' hbehind
        (index + row.line.length + 1)
      rw [← hstop] at hsegments
      have hplace : pre.length + ((row :: rows).flatMap Row.written).length =
          start + row.line.length + (rows.flatMap Row.written).length := by
        rw [hstop, List.flatMap_cons, List.length_append, List.length_append, Nat.add_assoc]
      rw [hplace]
      exact ⟨_, locateLines?_cons hnext hline hsegments⟩

theorem notMem_shown (h : r.Proper) {d : Char} (hd : isDelimiter d = true) : d ∉ r.shown := by
  have hplain {t : Text} (ht : IsPlain t) : d ∉ t := fun hmem =>
    Bool.false_ne_true ((ht d hmem).2.symm.trans hd)
  intro hmem
  rcases List.mem_append.1 hmem with hmem | hmem
  · exact hplain h.first hmem
  · obtain ⟨row, hrow, hmem⟩ := List.mem_flatMap.1 hmem
    rcases List.mem_cons.1 hmem with rfl | hmem
    · cases hd
    · exact hplain (h.rows row hrow).plain hmem

/-- No beginning of the run ends what is passed over. -/
theorem Follows.eq_nil (hs : r.Follows skipped) (h : r.Proper) :
    ∀ v, v <:+ skipped → v <+: r.shown → v = [] := by
  rcases hs with ⟨rfl, -⟩ | ⟨u, d, hd, rfl⟩
  · exact fun v hv _ => List.suffix_nil.1 hv
  · refine Text.eq_nil_of_suffix (notMem_shown h hd) fun c hc => ?_
    obtain ⟨first, rows⟩ := r
    by_cases hfirst : first = []
    · subst hfirst
      cases rows with
      | nil => cases hc
      | cons row rows =>
          have hc' : c ∈ row.blank := hc
          rcases (h.rows row List.mem_cons_self).blank with hb | hb
          · rw [hb] at hc'
            cases hc'
          · rw [hb, List.mem_singleton] at hc'
            rw [hc']
            exact fun heq => by cases heq
    · rw [lead_of_ne_nil hfirst] at hc
      cases hc

section Located

variable {source : Text} (h : r.Proper) (hs : r.Follows skipped)
  (hsource : source = pre ++ (skipped ++ (r.body ++ z)))

include h hs hsource

/-- The first line of a run that begins with text is found in its place just in case it is not in
what is passed over. -/
theorem firstFrom_first (hne : r.first ≠ []) :
    r.first.FirstFrom source pre.length (pre.length + skipped.length) ↔ ¬ r.first <:+: skipped := by
  rw [hsource, body_of_ne_nil hne, List.append_assoc]
  exact Text.firstFrom_iff hne fun v hv hbegins =>
    hs.eq_nil h v hv (hbegins.trans (List.prefix_append r.first _))

/-- So is a run in one piece. -/
theorem firstFrom_shown (hwhole : r.shown <+: r.body) :
    r.shown.FirstFrom source pre.length (pre.length + skipped.length) ↔ ¬ r.shown <:+: skipped := by
  obtain ⟨tail, htail⟩ := hwhole
  rw [hsource, ← htail, List.append_assoc]
  exact Text.firstFrom_iff h.ne_nil (hs.eq_nil h)

/-- A run is located in its place where it is clear, and the search goes on behind it. -/
theorem located_of_clear (hz : ∀ c ∈ z.head?, isIndent c = false ∧ c ≠ '>')
    (hclear : r.Clear skipped z) :
    beginning? source r.shown pre.length = some ((pre.length + skipped.length : Nat) : Int) ∧
      placeBehind source r.shown pre.length + r.behind.length =
        pre.length + skipped.length + r.body.length := by
  by_cases hwhole : r.shown <+: r.body
  · rw [Clear, if_pos hwhole] at hclear
    have hfirst := (firstFrom_shown h hs hsource hwhole).2 hclear
    refine ⟨beginning?_of_firstFrom h.ne_nil hfirst, ?_⟩
    have hle := r.length_shown_le
    rw [placeBehind_of_firstFrom h.ne_nil hfirst, behind, if_pos hwhole, List.length_drop]
    omega
  · rw [Clear, if_neg hwhole] at hclear
    obtain ⟨hskipped, hstands⟩ := hclear
    -- An empty first line would stand in what is passed over.
    have hne : r.first ≠ [] := by
      intro hnil
      rw [hnil] at hskipped
      exact hskipped List.nil_infix
    have hcursor : pre.length ≤ source.length := by
      rw [hsource, List.length_append]
      exact Nat.le_add_right _ _
    have hdrop :
        source.drop pre.length = skipped ++ (r.body ++ z) := by rw [hsource, List.drop_left]
    have hfirst := (firstFrom_first h hs hsource hne).2 hskipped
    have hbehind : source = pre ++ skipped ++ r.first ++ (r.rows.flatMap Row.written ++ z) := by
      rw [hsource, body_of_ne_nil hne]
      simp
    -- The first line is found in its place, and the others one after another behind it.
    obtain ⟨segments, hsegments⟩ := locateLines?_rows h.rows h.inner hz hbehind (r.first.length + 1)
    rw [List.length_append, List.length_append] at hsegments
    have hlocate := locate?_by_lines h.ne_nil hcursor (hdrop ▸ hstands) (splitAt_shown h)
    rw [(Text.findFrom?_eq_some_iff hne).2 hfirst, Option.bind_some, hsegments, Option.bind_some]
      at hlocate
    refine ⟨by rw [beginning?, hlocate]; rfl, ?_⟩
    rw [placeBehind, hlocate, behind, if_neg hwhole, body_of_ne_nil hne, List.length_append]
    simp only [Option.map_some, Option.getD_some, List.length_nil]
    omega

/-- A run that is located in its place is clear. -/
theorem clear_of_located
    (hbegins : beginning? source r.shown pre.length =
      some ((pre.length + skipped.length : Nat) : Int)) :
    r.Clear skipped z := by
  have hle : pre.length ≤ pre.length + skipped.length := Nat.le_add_right _ _
  have hcursor : pre.length ≤ source.length := by
    rw [hsource, List.length_append]
    exact Nat.le_add_right _ _
  have hdrop : source.drop pre.length = skipped ++ (r.body ++ z) := by rw [hsource, List.drop_left]
  by_cases hwhole : r.shown <+: r.body
  · rw [Clear, if_pos hwhole, ← firstFrom_shown h hs hsource hwhole]
    refine (beginning?_iff_firstFrom h.ne_nil ?_ hle).1 hbegins
    obtain ⟨tail, htail⟩ := hwhole
    exact ⟨pre ++ skipped, tail ++ z, by rw [hsource, ← htail]; simp, List.length_append⟩
  · rw [Clear, if_neg hwhole]
    have hstands : ¬ r.shown <:+: skipped ++ (r.body ++ z) := by
      intro hstands
      -- An occurrence in one piece would be taken, and it is not in the place of the run.
      obtain ⟨k, hk⟩ := Text.exists_firstFrom h.ne_nil hcursor (hdrop.symm ▸ hstands)
      rw [beginning?_of_firstFrom h.ne_nil hk] at hbegins
      rw [Int.ofNat_inj.1 (Option.some.inj hbegins)] at hk
      obtain ⟨u, post, hu, hlength⟩ := Text.exists_of_occursAt_drop hk.occursAt hle
      rw [hdrop, List.append_assoc] at hu
      have hbody := (List.append_inj hu (by omega)).2
      exact hwhole (List.prefix_of_prefix_length_le ⟨post, hbody.symm⟩ (List.prefix_append r.body z)
        r.length_shown_le)
    refine ⟨?_, hstands⟩
    have hfind :=
      findFrom?_of_beginning? h.ne_nil hcursor (hdrop ▸ hstands) (splitAt_shown h) hbegins
    by_cases hne : r.first = []
    · -- An empty line is found at once.
      rw [hne, Text.findFrom?_nil hcursor, Option.some.injEq] at hfind
      rcases hs with ⟨-, hfirst⟩ | ⟨u, d, -, hskipped⟩
      · exact absurd hne hfirst
      · rw [hskipped, List.length_append, List.length_cons] at hfind
        omega
    · exact (firstFrom_first h hs hsource hne).1 ((Text.findFrom?_eq_some_iff hne).1 hfind)

end Located

/-- What is left of the run is its end. -/
theorem exists_body_eq (r : Run) : ∃ x, r.body = x ++ r.behind := by
  by_cases hwhole : r.shown <+: r.body
  · obtain ⟨tail, htail⟩ := id hwhole
    refine ⟨r.shown, ?_⟩
    rw [behind, if_pos hwhole, ← htail, List.drop_left]
  · refine ⟨r.body, ?_⟩
    rw [behind, if_neg hwhole, List.append_nil]

end Run

/-! ## Parts -/

/-- Code as it is shown, with spaces for line feeds. -/
def shownCode (content : Text) : Text :=
  content.map fun c => if c = '\n' then ' ' else c

/-- A part of a paragraph. -/
inductive Part where
  | run (r : Run)
  | emphasis (word : Text)
  | code (content : Text)

namespace Part

/-- The part as it is written. -/
def written : Part → Text
  | run r => r.written
  | emphasis word => '*' :: (word ++ ['*'])
  | code content => '`' :: (content ++ ['`'])

/-- The part is not empty, holds no delimiters of its own, and code does not begin or end with a
space or a line feed. -/
def Proper : Part → Prop
  | run r => r.Proper
  | emphasis word => word ≠ [] ∧ IsPlain word
  | code content => content ≠ [] ∧ '`' ∉ content ∧ (∀ c ∈ content.head?, c ≠ ' ' ∧ c ≠ '\n') ∧
      ∀ c ∈ content.getLast?, c ≠ ' ' ∧ c ≠ '\n'

/-- The second part can stand behind the first: two runs would be one, and two pieces of code would
not be parted. -/
def Parted : Part → Part → Prop
  | run _, run _ => False
  | code _, code _ => False
  | _, _ => True

end Part

/-- A paragraph as it is written. -/
def written (parts : List Part) : Text :=
  parts.flatMap Part.written

/-- The texts of the parts, and the places where they were written, the first part at `place`. -/
def leaves : Nat → List Part → List (Text × Option Int)
  | _, [] => []
  | place, part :: parts =>
      let rest := leaves (place + part.written.length) parts
      match part with
      | .run r => (r.shown, some ((place + r.lead.length : Nat) : Int)) :: rest
      | .emphasis word => (word, some ((place + 1 : Nat) : Int)) :: rest
      | .code _ => rest

/-- The texts of the parts, and the places where they are found from a cursor on. -/
def found (source : Text) : Nat → List Part → List (Text × Option Int)
  | _, [] => []
  | cursor, .run r :: parts =>
      (r.shown, beginning? source r.shown cursor) ::
        found source (placeBehind source r.shown cursor) parts
  | cursor, .emphasis word :: parts =>
      (word, beginning? source word cursor) :: found source (placeBehind source word cursor) parts
  | cursor, .code content :: parts =>
      found source (placeBehind source (shownCode content) cursor) parts

/-- No text of the parts is found before its place, where `gap` stands between the cursor and the
parts.  Code that is not found where it stands is not found behind, and stays in the gap. -/
def Clear : Text → List Part → Prop
  | _, [] => True
  | gap, .run r :: parts => r.Clear (gap ++ r.lead) (written parts) ∧ Clear r.behind parts
  | gap, .emphasis word :: parts => ¬ word <:+: gap ++ ['*'] ∧ Clear ['*'] parts
  | gap, .code content :: parts =>
      match Text.breakOn (shownCode content) (gap ++ (Part.code content).written) with
      | some (_, behind) => Clear behind parts
      | none => ¬ shownCode content <:+: written parts ∧
          Clear (gap ++ (Part.code content).written) parts

/-- The gap before the parts ends with a delimiter, unless they begin with no run, or with text. -/
def Leads (gap : Text) (parts : List Part) : Prop :=
  ∀ r, parts.head? = some (.run r) →
    gap = [] ∧ r.first ≠ [] ∨ ∃ u d, isDelimiter d = true ∧ gap = u ++ [d]

instance (r : Run) (skipped z : Text) : Decidable (r.Clear skipped z) :=
  inferInstanceAs (Decidable (if r.shown <+: r.body then ¬ r.shown <:+: skipped
    else ¬ r.first <:+: skipped ∧ ¬ r.shown <:+: skipped ++ (r.body ++ z)))

instance decidableClear : (gap : Text) → (parts : List Part) → Decidable (Clear gap parts)
  | _, [] => .isTrue trivial
  | gap, .run r :: parts =>
      have := decidableClear r.behind parts
      inferInstanceAs (Decidable (r.Clear (gap ++ r.lead) (written parts) ∧ Clear r.behind parts))
  | gap, .emphasis word :: parts =>
      have := decidableClear ['*'] parts
      inferInstanceAs (Decidable (¬ word <:+: gap ++ ['*'] ∧ Clear ['*'] parts))
  | gap, .code content :: parts =>
      match h : Text.breakOn (shownCode content) (gap ++ (Part.code content).written) with
      | some (_, behind) =>
          have := decidableClear behind parts
          decidable_of_iff (Clear behind parts) (by rw [Clear, h])
      | none =>
          have := decidableClear (gap ++ (Part.code content).written) parts
          decidable_of_iff (¬ shownCode content <:+: written parts ∧
            Clear (gap ++ (Part.code content).written) parts) (by rw [Clear, h])

section Parts

variable {parts : List Part} {gap pre source content : Text}

theorem Leads.follows {r : Run} (hgap : Leads gap (.run r :: parts)) :
    r.Follows (gap ++ r.lead) := by
  rcases hgap r rfl with ⟨rfl, hne⟩ | ⟨u, d, hd, rfl⟩
  · left
    rw [Run.lead_of_ne_nil hne]
    exact ⟨rfl, hne⟩
  · exact .inr ⟨u, d, hd, by simp⟩

theorem leads_of_parted {r : Run} (h : (Part.run r :: parts).IsChain Part.Parted) :
    Leads gap parts := by
  intro r' hr'
  cases parts with
  | nil => cases hr'
  | cons p parts =>
      cases hr'
      cases h with
      | cons_cons h _ => cases h

theorem leads_concat {d : Char} (hd : isDelimiter d = true) (u : Text) : Leads (u ++ [d]) parts :=
  fun _ _ => .inr ⟨u, d, hd, rfl⟩

/-- What stands behind a run begins with a delimiter. -/
theorem head?_written {r : Run} (h : (Part.run r :: parts).IsChain Part.Parted) :
    ∀ c ∈ (written parts).head?, isIndent c = false ∧ c ≠ '>' := by
  cases parts with
  | nil => exact fun c hc => by cases hc
  | cons p parts =>
      cases p with
      | run r' =>
          cases h with
          | cons_cons h _ => cases h
      | emphasis word =>
          rintro c ⟨⟩
          decide
      | code content =>
          rintro c ⟨⟩
          decide

theorem notMem_shownCode {d : Char} (hd : d ≠ ' ') (h : d ∉ content) : d ∉ shownCode content := by
  rw [shownCode, List.mem_map]
  rintro ⟨c, hc, heq⟩
  split at heq
  · exact hd heq.symm
  · exact h (heq ▸ hc)

theorem shownCode_eq_self (h : '\n' ∉ content) : shownCode content = content := by
  have hsame : ∀ c ∈ content, (if c = '\n' then ' ' else c) = c := by
    intro c hc
    refine if_neg ?_
    rintro rfl
    exact h hc
  exact (List.map_congr_left hsame).trans (List.map_id content)

theorem newline_notMem_shownCode (content : Text) : '\n' ∉ shownCode content := by
  rw [shownCode, List.mem_map]
  rintro ⟨c, -, heq⟩
  split at heq
  · cases heq
  · next hne => exact hne heq

/-! ## Steps of the search -/

/-- A run is located in its place just in case it is clear, and the search goes on behind it then.
-/
theorem step_run {r : Run} (h : r.Proper) (hgap : Leads gap (.run r :: parts))
    (happart : (Part.run r :: parts).IsChain Part.Parted)
    (hsource : source = pre ++ (gap ++ written (.run r :: parts))) :
    (beginning? source r.shown pre.length =
        some ((pre.length + gap.length + r.lead.length : Nat) : Int) ↔
      r.Clear (gap ++ r.lead) (written parts)) ∧
    (r.Clear (gap ++ r.lead) (written parts) →
      ∃ pre', source = pre' ++ (r.behind ++ written parts) ∧
        pre'.length = placeBehind source r.shown pre.length) := by
  have hbody : source = pre ++ ((gap ++ r.lead) ++ (r.body ++ written parts)) := by
    rw [hsource, written, List.flatMap_cons, Part.written, ← r.lead_append_body]
    simp [written]
  have hz := head?_written happart
  have hplace : pre.length + gap.length + r.lead.length = pre.length + (gap ++ r.lead).length := by
    rw [List.length_append, Nat.add_assoc]
  rw [hplace]
  refine ⟨⟨Run.clear_of_located h hgap.follows hbody, fun hclear =>
    (Run.located_of_clear h hgap.follows hbody hz hclear).1⟩, fun hclear => ?_⟩
  have hbehind := (Run.located_of_clear h hgap.follows hbody hz hclear).2
  obtain ⟨x, hx⟩ := r.exists_body_eq
  refine ⟨pre ++ (gap ++ r.lead) ++ x, ?_, ?_⟩
  · rw [hbody, hx]
    simp
  · rw [hx] at hbehind
    simp only [List.length_append] at hbehind ⊢
    omega

/-- An emphasised word is located in its place just in case it is not passed over on the way, and
the search goes on before the delimiter behind it then. -/
theorem step_emphasis {word : Text} (h : (Part.emphasis word).Proper)
    (hsource : source = pre ++ (gap ++ written (.emphasis word :: parts))) :
    (beginning? source word pre.length = some ((pre.length + gap.length + 1 : Nat) : Int) ↔
      ¬ word <:+: gap ++ ['*']) ∧
    (¬ word <:+: gap ++ ['*'] → ∃ pre', source = pre' ++ (['*'] ++ written parts) ∧
      pre'.length = placeBehind source word pre.length) := by
  obtain ⟨hne, hplain⟩ := h
  have hword : source = pre ++ ((gap ++ ['*']) ++ (word ++ ('*' :: written parts))) := by
    rw [hsource]
    simp [written, Part.written]
  have hplace : pre.length + gap.length + 1 = pre.length + (gap ++ ['*']).length := by
    rw [List.length_append, List.length_singleton, Nat.add_assoc]
  have hstar : '*' ∉ word := fun hmem => by cases (hplain _ hmem).2
  have hfirst : word.FirstFrom source pre.length (pre.length + (gap ++ ['*']).length) ↔
      ¬ word <:+: gap ++ ['*'] := by
    rw [hword]
    exact Text.firstFrom_iff hne (Text.eq_nil_of_suffix hstar (by simp))
  have hoccurs : word.OccursAt source (pre.length + (gap ++ ['*']).length) :=
    ⟨pre ++ (gap ++ ['*']), '*' :: written parts, by rw [hword]; simp, List.length_append⟩
  rw [hplace, ← hfirst]
  refine ⟨beginning?_iff_firstFrom hne hoccurs (Nat.le_add_right _ _), fun hclear => ?_⟩
  refine ⟨pre ++ (gap ++ ['*']) ++ word, by rw [hword]; simp, ?_⟩
  rw [placeBehind_of_firstFrom hne hclear]
  simp only [List.length_append]

/-- Code is passed over where it is found, in the gap or in its own place. -/
theorem step_code_of_some {a behind : Text} (hne : content ≠ [])
    (hcut : Text.breakOn (shownCode content) (gap ++ (Part.code content).written) =
    some (a, behind))
    (hsource : source = pre ++ (gap ++ written (.code content :: parts))) :
    ∃ pre', source = pre' ++ (behind ++ written parts) ∧
      pre'.length = placeBehind source (shownCode content) pre.length := by
  have hne' : shownCode content ≠ [] := by simpa [shownCode] using hne
  have hcode : source = pre ++ ((gap ++ (Part.code content).written) ++ written parts) := by
    rw [hsource]
    simp [written]
  have hbehind : Text.breakOn (shownCode content) (source.drop pre.length) =
      some (a, behind ++ written parts) := by
    rw [hcode, List.drop_left]
    exact Text.breakOn_append hcut hne' (written parts)
  have hcursor : pre.length ≤ source.length := by
    rw [hcode, List.length_append]
    exact Nat.le_add_right _ _
  have hfirst := Text.firstFrom_of_breakOn hne' hbehind hcursor
  refine ⟨pre ++ a ++ shownCode content, ?_, ?_⟩
  · rw [hcode, Text.breakOn_eq_some hcut]
    simp
  · rw [placeBehind_of_firstFrom hne' hfirst]
    simp only [List.length_append]

/-- Code that is found neither in the gap nor in its own place is found behind, or not at all. -/
theorem step_code_of_none (h : (Part.code content).Proper)
    (hcut : Text.breakOn (shownCode content) (gap ++ (Part.code content).written) = none)
    (hsource : source = pre ++ (gap ++ written (.code content :: parts))) :
    if shownCode content <:+: written parts then
      pre.length + gap.length + (Part.code content).written.length + 1 <
        placeBehind source (shownCode content) pre.length
    else placeBehind source (shownCode content) pre.length = pre.length := by
  obtain ⟨hne, htick, hhead, -⟩ := h
  have hne' : shownCode content ≠ [] := by simpa [shownCode] using hne
  have htick' : '`' ∉ shownCode content := notMem_shownCode (by decide) htick
  have hstands := Text.breakOn_eq_none_iff.1 hcut
  have hdrop : source.drop pre.length = gap ++ '`' :: content ++ '`' :: written parts := by
    rw [hsource, List.drop_left]
    simp [written, Part.written]
  have hcursor : pre.length ≤ source.length := by
    rw [hsource, List.length_append]
    exact Nat.le_add_right _ _
  have hbefore : ¬ shownCode content <:+: gap ++ '`' :: content :=
    fun h => hstands (h.trans ⟨[], ['`'], by simp [Part.written]⟩)
  split
  · next hbehind =>
      have hcode : 2 ≤ (shownCode content).length := by
        -- One character would be shown as it is written.
        rw [shownCode, List.length_map]
        match content, hne, hhead, hbefore with
        | [c], _, hhead, hbefore =>
            have hc : c ≠ '\n' := (hhead c rfl).2
            exact absurd ⟨gap ++ ['`'], [], by simp [shownCode, hc]⟩ hbefore
        | _ :: _ :: _, _, _, _ => exact Nat.le_add_left 2 _
      obtain ⟨k, hk⟩ := Text.exists_firstFrom hne' hcursor (hdrop ▸ hbehind.trans
        ⟨gap ++ '`' :: content ++ ['`'], [], by simp⟩)
      obtain ⟨a, b, ha, hlength⟩ := Text.exists_of_occursAt_drop hk.occursAt hk.le
      rcases Text.isInfix_or_of_append htick' (ha.symm.trans hdrop) with h | ⟨v, hv, -⟩
      · exact absurd h hbefore
      · rw [placeBehind_of_firstFrom hne' hk, ← hlength, hv]
        simp only [Part.written, List.length_append, List.length_cons, List.length_nil]
        omega
  · next hbehind =>
      refine placeBehind_of_absent hne' hcursor (newline_notMem_shownCode content) ?_
      rintro ⟨a, b, ha⟩
      rcases Text.isInfix_or_of_append htick' (ha.trans hdrop) with h | ⟨v, -, hv⟩
      · exact hbefore h
      · exact hbehind ⟨v, b, hv.symm⟩

/-- Behind code there is a delimiter. -/
theorem leads_behind {a behind : Text} (h : (Part.code content).Proper)
    (hcut : gap ++ (Part.code content).written = a ++ shownCode content ++ behind) :
    Leads behind parts := by
  have htick : '`' ∉ shownCode content := notMem_shownCode (by decide) h.2.1
  have hlast := congrArg List.getLast? hcut
  have hend : (gap ++ (Part.code content).written).getLast? = some '`' := by
    rw [Part.written, ← List.cons_append, ← List.append_assoc, List.getLast?_concat]
  rw [hend] at hlast
  rcases List.eq_nil_or_concat behind with rfl | ⟨u, d, rfl⟩
  · rcases List.eq_nil_or_concat (shownCode content) with hnil | ⟨u, d, hd⟩
    · exact absurd (List.map_eq_nil_iff.1 hnil) h.1
    · rw [hd, List.append_nil, List.concat_eq_append, ← List.append_assoc,
        List.getLast?_concat] at hlast
      rw [hd, List.concat_eq_append, ← Option.some.inj hlast] at htick
      exact absurd (List.mem_append_right u List.mem_cons_self) htick
  · rw [List.concat_eq_append] at hlast ⊢
    rw [← List.append_assoc, List.getLast?_concat] at hlast
    exact Option.some.inj hlast ▸ leads_concat rfl u

/-- Where the search has gone too far, the next text is not found in its place. -/
theorem found_ne_leaves (source : Text) {place cursor : Nat} (h : ∀ p ∈ parts, p.Proper)
    (hne : parts ≠ []) (hcode : ∀ c, parts.head? ≠ some (.code c)) (hlt : place + 1 < cursor) :
    found source cursor parts ≠ leaves place parts := by
  cases parts with
  | nil => exact absurd rfl hne
  | cons p parts =>
      cases p with
      | run r =>
          intro heq
          simp only [found, leaves, List.cons.injEq, Prod.mk.injEq, true_and] at heq
          have hle := le_of_beginning? heq.1
          have hlead := Run.length_lead_le (h _ List.mem_cons_self)
          omega
      | emphasis word =>
          intro heq
          simp only [found, leaves, List.cons.injEq, Prod.mk.injEq, true_and] at heq
          have hle := le_of_beginning? heq.1
          omega
      | code content => exact absurd rfl (hcode content)

/-- The search finds all texts where they were written just in case nothing is in their way. -/
theorem found_iff (h : ∀ p ∈ parts, p.Proper) (happart : parts.IsChain Part.Parted)
    (hgap : Leads gap parts) (hsource : source = pre ++ (gap ++ written parts)) :
    found source pre.length parts = leaves (pre.length + gap.length) parts ↔ Clear gap parts := by
  induction parts generalizing gap pre with
  | nil => simp [found, leaves, Clear]
  | cons p parts ih =>
      have hparts : ∀ q ∈ parts, q.Proper := fun q hq => h q (List.mem_cons_of_mem p hq)
      have hchain : parts.IsChain Part.Parted := happart.tail
      -- Where the search goes on behind a gap, the rest is as written.
      have hrest {pre' gap' : Text} (hpre : source = pre' ++ (gap' ++ written parts))
          (hlead : Leads gap' parts) :
          found source pre'.length parts =
            leaves (pre.length + gap.length + p.written.length) parts ↔ Clear gap' parts := by
        have hplace : pre.length + gap.length + p.written.length = pre'.length + gap'.length := by
          have hlength := congrArg List.length (hsource.symm.trans hpre)
          simp only [written, List.flatMap_cons, List.length_append] at hlength
          omega
        rw [hplace]
        exact ih hparts hchain hlead hpre
      have hproper := h p List.mem_cons_self
      cases p with
      | run r =>
          obtain ⟨hbegins, hbehind⟩ := step_run hproper hgap happart hsource
          simp only [found, leaves, Clear, List.cons.injEq, Prod.mk.injEq, true_and, hbegins]
          refine and_congr_right fun hclear => ?_
          obtain ⟨pre', hpre, hlength⟩ := hbehind hclear
          rw [← hlength]
          exact hrest hpre (leads_of_parted happart)
      | emphasis word =>
          obtain ⟨hbegins, hbehind⟩ := step_emphasis hproper hsource
          simp only [found, leaves, Clear, List.cons.injEq, Prod.mk.injEq, true_and, hbegins]
          refine and_congr_right fun hclear => ?_
          obtain ⟨pre', hpre, hlength⟩ := hbehind hclear
          rw [← hlength]
          exact hrest hpre (leads_concat rfl [])
      | code content =>
          simp only [found, leaves, Clear]
          split
          · next a behind hcut =>
              obtain ⟨pre', hpre, hlength⟩ := step_code_of_some hproper.1 hcut hsource
              rw [← hlength]
              exact hrest hpre (leads_behind hproper (Text.breakOn_eq_some hcut))
          · next hcut =>
              have hplace := step_code_of_none hproper hcut hsource
              split at hplace
              · next hstands =>
                  have hne : parts ≠ [] := by
                    rintro rfl
                    exact hproper.1 (List.map_eq_nil_iff.1 (List.infix_nil.1 hstands))
                  have hcode : ∀ c, parts.head? ≠ some (.code c) := by
                    intro c hc
                    cases parts with
                    | nil => cases hc
                    | cons q parts =>
                        cases hc
                        exact (List.isChain_cons_cons.1 happart).1
                  -- Behind the code that was taken instead, the next text is not in its place.
                  have hfail := found_ne_leaves source hparts hne hcode hplace
                  exact iff_of_false hfail fun hclear => hclear.1 hstands
              · next hstands =>
                  rw [hplace]
                  -- The search has not moved, and the code is part of the gap now.
                  have hpre :
                      source = pre ++ (gap ++ (Part.code content).written ++ written parts) := by
                    rw [hsource]
                    simp [written]
                  have hlead : Leads (gap ++ (Part.code content).written) parts := by
                    rw [Part.written, ← List.cons_append, ← List.append_assoc]
                    exact leads_concat rfl _
                  rw [hrest hpre hlead, and_iff_right hstands]

/-! ## Parts that lose nothing -/

/-- The line breaks of the part lose nothing, and code is on one line. -/
def Part.IsWhole : Part → Prop
  | run r => ∀ row ∈ r.rows, row.blank = [] ∧ row.indent = []
  | emphasis _ => True
  | code content => '\n' ∉ content

theorem Run.eq_of_isWhole {r : Run} (h : (Part.run r).IsWhole) :
    r.lead = [] ∧ r.body = r.shown ∧ r.behind = [] := by
  have hlead : r.lead = [] := by
    obtain ⟨first, rows⟩ := r
    unfold Run.lead
    split
    · cases rows with
      | nil => rfl
      | cons row rows => exact (h row List.mem_cons_self).1
    · rfl
  have hrows : r.rows.flatMap Row.written = r.rows.flatMap Row.shown := by
    refine List.flatMap_congr fun row hrow => ?_
    obtain ⟨hblank, hindent⟩ := h row hrow
    rw [Row.written, Row.shown, hblank, hindent]
    rfl
  have hbody : r.body = r.shown := by
    have hwritten := r.lead_append_body
    rwa [hlead, List.nil_append, Run.written, hrows] at hwritten
  refine ⟨hlead, hbody, ?_⟩
  rw [Run.behind, hbody, if_pos List.prefix_rfl, List.drop_length]

/-- A text without delimiters does not stand among delimiters. -/
theorem not_stands_of_isDelimiter {t : Text} (hne : t ≠ []) (ht : ∀ c ∈ t, isDelimiter c = false)
    (hgap : ∀ c ∈ gap, isDelimiter c = true) : ¬ t <:+: gap := by
  intro h
  obtain ⟨c, hc⟩ := List.exists_mem_of_ne_nil t hne
  exact Bool.false_ne_true ((ht c hc).symm.trans (hgap c (h.subset hc)))

/-- Code on one line is found in its place, or among the delimiters before it. -/
theorem breakOn_code (htick : '`' ∉ content)
    (hgap : ∀ c ∈ gap, isDelimiter c = true) :
    ∃ a behind, Text.breakOn content (gap ++ (Part.code content).written) = some (a, behind) ∧
      ∀ c ∈ behind, isDelimiter c = true := by
  have hstands : content <:+: gap ++ (Part.code content).written :=
    ⟨gap ++ ['`'], ['`'], by simp [Part.written]⟩
  cases hcut : Text.breakOn content (gap ++ (Part.code content).written) with
  | none => exact absurd hstands (Text.breakOn_eq_none_iff.1 hcut)
  | some r =>
      obtain ⟨a, behind⟩ := r
      refine ⟨a, behind, rfl, ?_⟩
      have heq := (Text.breakOn_eq_some hcut).symm
      rcases Text.isInfix_or_of_append htick heq with hbefore | ⟨v, -, hv⟩
      · have hall : ∀ c ∈ gap ++ (Part.code content).written, isDelimiter c = true := by
          intro c hc
          simp only [Part.written, List.mem_append, List.mem_cons, List.not_mem_nil, or_false] at hc
          rcases hc with hc | rfl | hc | rfl
          · exact hgap c hc
          · rfl
          · exact hgap c (hbefore.subset hc)
          · rfl
        exact fun c hc => hall c (heq ▸ List.mem_append_right _ hc)
      · -- The delimiter behind the code is all that is left.
        have hlength := congrArg List.length hv
        simp only [List.length_append, List.length_singleton] at hlength
        cases v with
        | nil =>
            rw [List.nil_append, List.append_cancel_left_eq] at hv
            exact hv ▸ List.forall_mem_singleton.2 rfl
        | cons _ _ =>
            rw [List.length_cons] at hlength
            have hnil : behind = [] := List.eq_nil_of_length_eq_zero (by omega)
            simp [hnil]

/-- Nothing is in the way of a text where line breaks lose nothing and code is on one line. -/
theorem clear_of_isWhole (h : ∀ p ∈ parts, p.Proper) (hwhole : ∀ p ∈ parts, p.IsWhole)
    (hgap : ∀ c ∈ gap, isDelimiter c = true) : Clear gap parts := by
  induction parts generalizing gap with
  | nil => trivial
  | cons p parts ih =>
      obtain ⟨hp, hparts⟩ := List.forall_mem_cons.1 h
      obtain ⟨hpwhole, hpartswhole⟩ := List.forall_mem_cons.1 hwhole
      cases p with
      | run r =>
          obtain ⟨hlead, hbody, hbehind⟩ := Run.eq_of_isWhole hpwhole
          have hplain : ∀ c ∈ r.shown, isDelimiter c = false := fun c hc =>
            Bool.eq_false_iff.2 fun hd => Run.notMem_shown hp hd hc
          refine ⟨?_, ih hparts hpartswhole (hbehind ▸ by simp)⟩
          rw [Run.Clear, hbody, if_pos List.prefix_rfl, hlead, List.append_nil]
          exact not_stands_of_isDelimiter hp.ne_nil hplain hgap
      | emphasis word =>
          have hstar : ∀ c ∈ ['*'], isDelimiter c = true := List.forall_mem_singleton.2 rfl
          refine ⟨not_stands_of_isDelimiter hp.1 (fun c hc => (hp.2 c hc).2) ?_,
            ih hparts hpartswhole hstar⟩
          exact List.forall_mem_append.2 ⟨hgap, hstar⟩
      | code content =>
          obtain ⟨a, behind, hcut, hbehind⟩ := breakOn_code hp.2.1 hgap
          rw [Clear, shownCode_eq_self hpwhole, hcut]
          exact ih hparts hpartswhole hbehind

end Parts

end Paragraph
end Markdown
end LiquidMarkdown
