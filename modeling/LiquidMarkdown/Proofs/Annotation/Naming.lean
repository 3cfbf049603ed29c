import LiquidMarkdown.Proofs.Annotation.Pairing
import LiquidMarkdown.Proofs.Tag.Name

/-!
# The two names of a tag

The search for the end of a block takes the name of a tag from the content between the delimiters,
reading a tag from what is left when the tag was stripped.  Both pass over one dash, and stripping
takes one of its own before that.  This file states:

* `Tag.TwiceDashed` — a content with two dashes before its first word;
* `Tag.nameOf?_of_twiceDashed` — which has no name for the search;
* `Tag.nameOf?_dropDash_eq_some_iff` — and gains one when a dash is stripped, as no other does;
* `Tag.read_name_eq_nameOf_iff` — the two names are the same, but for such a content.
-/

namespace LiquidMarkdown
namespace Tag

/-- Two dashes stand before the word, with nothing but blanks between them and the word. -/
def TwiceDashed (w content : Text) : Prop :=
  ∃ p q r, (∀ c ∈ p, Text.isBlank c = true) ∧ (∀ c ∈ q, Text.isBlank c = true) ∧ IsWord w r ∧
    content = '-' :: (p ++ '-' :: (q ++ (w ++ r)))

variable {content w : Text}

/-- Behind one dash, the other stands in the way of the word. -/
theorem nameOf?_of_twiceDashed (h : TwiceDashed w content) : nameOf? content = none := by
  rcases h with ⟨p, q, r, hp, _, _, rfl⟩
  have hlast : ∀ c ∈ ('-' :: (p ++ ['-'])).getLast?, Text.isBlank c = false := by
    intro c hc
    rw [← List.cons_append, List.getLast?_concat] at hc
    cases hc
    decide
  rcases Text.dropEnd_append hlast (q ++ (w ++ r)) with ⟨v, _, hv⟩
  -- Trimming stops at the two dashes, and then the first one is dropped and the second one is left.
  have htrim : Text.trim ('-' :: (p ++ '-' :: (q ++ (w ++ r)))) = '-' :: (p ++ '-' :: v) := by
    have hstart : Text.dropStart Text.isBlank ('-' :: (p ++ '-' :: (q ++ (w ++ r)))) =
        '-' :: (p ++ ['-']) ++ (q ++ (w ++ r)) := by
      rw [Text.dropStart_eq_self]
      · simp
      · intro c hc
        cases hc
        decide
    rw [Text.trim, Text.trimAll, hstart, hv]
    simp
  have hbehind : Text.trimStart (dropDash ('-' :: (p ++ '-' :: v))) = '-' :: v := by
    apply Text.dropStart_append hp
    intro c hc
    cases hc
    decide
  rw [nameOf?, htrim, hbehind]
  rfl

/-- Without the first dash, the word is the name. -/
theorem nameOf?_dropDash_of_twiceDashed (h : TwiceDashed w content) :
    nameOf? (dropDash content) = some w := by
  rcases h with ⟨p, q, r, hp, hq, hw, rfl⟩
  have hlead : Lead (p ++ '-' :: q) := ⟨p, q, hp, hq, .inr rfl⟩
  have hcontent : p ++ '-' :: (q ++ (w ++ r)) = p ++ '-' :: q ++ w ++ r := by simp
  change nameOf? (p ++ '-' :: (q ++ (w ++ r))) = some w
  rw [hcontent]
  exact nameOf?_lead hlead hw

/-- The name without a dash at the start is the name with it, or the word behind two dashes. -/
theorem nameOf?_dropDash_eq_some_iff :
    nameOf? (dropDash content) = some w ↔ nameOf? content = some w ∨ TwiceDashed w content := by
  constructor
  · intro h
    rcases eq_dropDash content with hdash | hdash
    · rw [← hdash] at h
      exact .inl h
    · rcases nameOf?_eq_some_iff.1 h with ⟨a, r, hcontent, ha, hw⟩
      rw [hcontent] at hdash
      rcases ha with ⟨p, q, hp, hq, rfl | rfl⟩
      · -- The dash that was dropped is the only one of the lead.
        have hblank : ∀ c ∈ p ++ q, Text.isBlank c = true := by
          intro c hc
          rcases List.mem_append.1 hc with hc | hc
          · exact hp c hc
          · exact hq c hc
        have hlead : Lead ('-' :: (p ++ q)) :=
          ⟨[], p ++ q, fun _ hc => absurd hc List.not_mem_nil, hblank, .inr rfl⟩
        rw [hdash]
        exact .inl (nameOf?_lead hlead hw)
      · refine .inr ⟨p, q, r, hp, hq, hw, ?_⟩
        rw [hdash]
        simp
  · rintro (h | h)
    · exact nameOf?_dropDash h
    · exact nameOf?_dropDash_of_twiceDashed h

/-! ## Reading -/

/-- The name under which a tag is read. -/
theorem read_name (T : TagTables) {t : Tag} (h : t.raw = Delimiters.tag.wrap content) :
    (t.read T).name = nameOf (dropDash content) := by
  have hraw : t.raw ≠ [] := h ▸ List.cons_ne_nil _ _
  rcases exists_read_eq T hraw with ⟨c, _, hread⟩
  rw [hread, h]
  exact congrArg (·.getD unknownName) (nameOf?_strip_wrap content)

/-- A tag that was read has the roles of its name. -/
theorem read_roles (T : TagTables) {t : Tag} (h : t.raw ≠ []) :
    (t.read T).isStart = (T.role (t.read T).name == .blockStart) ∧
      (t.read T).isEnd = (T.role (t.read T).name == .blockEnd) ∧
      (t.read T).isContinuation = (T.role (t.read T).name == .continuation) := by
  rcases exists_read_eq T h with ⟨c, _, hread⟩
  rw [hread]
  exact ⟨rfl, rfl, rfl⟩

/-- A tag is read under the name that the search for the end of a block sees, unless two dashes
stand before its first word: then the search sees no name at all.  Where the names are the same, so
are the roles. -/
theorem read_name_eq_nameOf_iff (T : TagTables) {t : Tag}
    (h : t.raw = Delimiters.tag.wrap content) :
    ((t.read T).name = nameOf content ↔ ∀ w, TwiceDashed w content → w = unknownName) ∧
    (∀ w, TwiceDashed w content → nameOf content = unknownName ∧ (t.read T).name = w) ∧
    ((t.read T).name = nameOf content →
      (t.read T).isStart = (T.role (nameOf content) == .blockStart) ∧
      (t.read T).isEnd = (T.role (nameOf content) == .blockEnd) ∧
      (t.read T).isContinuation = (T.role (nameOf content) == .continuation)) := by
  have hname := read_name T h
  have htwice (w : Text) (hw : TwiceDashed w content) :
      nameOf content = unknownName ∧ (t.read T).name = w := by
    refine ⟨?_, ?_⟩
    · rw [nameOf, nameOf?_of_twiceDashed hw]
      rfl
    · rw [hname, nameOf, nameOf?_dropDash_of_twiceDashed hw]
      rfl
  refine ⟨⟨fun heq w hw => ?_, fun hunknown => ?_⟩, htwice, fun heq => ?_⟩
  · rcases htwice w hw with ⟨hscanned, hread⟩
    rw [← hread, heq, hscanned]
  · rw [hname, nameOf, nameOf]
    -- Reading drops one dash.  With a first word behind a second one the names differ, else they
    -- are the same.
    cases hd : nameOf? (dropDash content) with
    | none =>
        cases hc : nameOf? content with
        | none => rfl
        | some w =>
            rw [nameOf?_dropDash hc] at hd
            cases hd
    | some w =>
        rcases nameOf?_dropDash_eq_some_iff.1 hd with hc | hw
        · rw [hc]
        · rw [hunknown w hw, nameOf?_of_twiceDashed hw]
          rfl
  · rw [← heq]
    exact read_roles T (h ▸ List.cons_ne_nil _ _)

/-- A tag with two dashes opens a block for the association, and nothing for the search. -/
theorem read_name_eq_nameOf_iff_twoDashes :
    ({ raw := "\x7b%- -if a %\x7d" } : Tag).raw = Delimiters.tag.wrap "- -if a " ∧
      TwiceDashed "if" "- -if a " ∧ nameOf "- -if a " = unknownName ∧
      (({ raw := "\x7b%- -if a %\x7d" } : Tag).read .standard).name = ("if" : Text) := by
  have hraw : ({ raw := "\x7b%- -if a %\x7d" } : Tag).raw = Delimiters.tag.wrap "- -if a " := by
    decide
  have hword : IsWord "if" " a " := by
    refine ⟨by decide, ?_, fun c hc => ?_⟩
    · have hall : ("if" : Text).all Unicode.isWord = true := by decide +kernel
      exact List.all_eq_true.1 hall
    · cases hc
      decide +kernel
  have htwice : TwiceDashed "if" "- -if a " :=
    ⟨[' '], [], " a ", List.forall_mem_singleton.2 (by decide), nofun, hword, rfl⟩
  have hnames := (read_name_eq_nameOf_iff .standard hraw).2.1 _ htwice
  exact ⟨hraw, htwice, hnames⟩

end Tag
end LiquidMarkdown
