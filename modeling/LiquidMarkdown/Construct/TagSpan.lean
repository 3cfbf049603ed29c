import LiquidMarkdown.Construct.Delimiters
import LiquidMarkdown.Tag.Tables

/-!
# Tag spans and the ends of blocks

The tags of a text, read from left to right, and the search for the one that closes a block.  This
file defines:

* `TagSpan` — a tag in a text, with the text before it and the text behind it;
* `tagSpans` — the successive tags of a text, which do not overlap;
* `BlockEnd` — the body of a block, its closing tag and the text behind it;
* `firstNamed?` — the first tag of a given name;
* `closing?` — the tag that closes a block of a given type;
* `blockEnd?` — the same from the text that follows the opening tag;
* `blockEndAt?` — the same as offsets.

Tags of the same name nest.  The body of a block that is literal text hides its tags, up to the
first tag that closes it.
-/

namespace LiquidMarkdown

/-! ## Spans -/

/-- A tag in a text. -/
structure TagSpan where
  before : Text
  content : Text
  rest : Text
  deriving DecidableEq, Repr

namespace TagSpan

/-- The name of the tag. -/
def name (s : TagSpan) : Text :=
  Tag.nameOf s.content

/-- The tag as it is written. -/
def raw (s : TagSpan) : Text :=
  Delimiters.tag.wrap s.content

/-- The first tag of a text. -/
def first? (t : Text) : Option TagSpan := do
  let (before, inside) ← Text.breakOn Delimiters.tag.opening t
  let (content, rest) ← Text.breakOn Delimiters.tag.closing inside
  return ⟨before, content, rest⟩

/-- A text is what stands before its first tag, that tag, and what stands behind. -/
theorem eq_of_first? {t : Text} {s : TagSpan} (h : first? t = some s) :
    t = s.before ++ s.raw ++ s.rest := by
  simp only [first?, Option.bind_eq_bind, Option.bind_eq_some_iff, Option.pure_def] at h
  obtain ⟨⟨a, b⟩, hab, ⟨c, d⟩, hcd, hs⟩ := h
  cases hs
  have hb : b = c ++ Delimiters.tag.closing ++ d := Text.breakOn_eq_some hcd
  simp [raw, Delimiters.wrap, Text.breakOn_eq_some hab, hb]

theorem length_lt_of_first? {t : Text} {s : TagSpan} (h : first? t = some s) :
    s.rest.length < t.length := by
  rw [eq_of_first? h]
  simp only [raw, Delimiters.wrap, Delimiters.tag, List.length_append, List.length_cons]
  omega

end TagSpan

/-- The successive tags of a text, each with the text since the one before it. -/
def tagSpans (t : Text) : List TagSpan :=
  match _h : TagSpan.first? t with
  | none => []
  | some s => s :: tagSpans s.rest
termination_by t.length
decreasing_by exact TagSpan.length_lt_of_first? _h

/-! ## Ends of blocks -/

/-- A body, the tag that ends it, and the text behind. -/
structure BlockEnd where
  body : Text
  content : Text
  rest : Text
  deriving DecidableEq, Repr

namespace BlockEnd

/-- The closing tag as it is written. -/
def raw (e : BlockEnd) : Text :=
  Delimiters.tag.wrap e.content

/-- The end that a tag makes. -/
def ofSpan (s : TagSpan) : BlockEnd :=
  ⟨s.before, s.content, s.rest⟩

/-- The end of a body that starts earlier, with the tag `s` and what is before it. -/
def after (s : TagSpan) (e : BlockEnd) : BlockEnd :=
  { e with body := s.before ++ s.raw ++ e.body }

end BlockEnd

/-- The first tag of a given name. -/
def firstNamed? (name : Text) : List TagSpan → Option BlockEnd
  | [] => none
  | s :: ss =>
      if s.name = name then some (.ofSpan s) else (firstNamed? name ss).map (.after s)

/-- The tag that closes a block of the type `name`, where `depth` more blocks of this type are open
inside it, and `hidden` is the literal block that hides the tags, if there is one. -/
def closing? (T : TagTables) (name : Text) (depth : Nat) (hidden : Option Text) :
    List TagSpan → Option BlockEnd
  | [] => none
  | s :: ss =>
      match hidden with
      | some v =>
          (closing? T name depth (if s.name = Tag.endOf v then none else some v) ss).map (.after s)
      | none =>
          if s.name = Tag.endOf name then
            match depth with
            | 0 => some (.ofSpan s)
            | k + 1 => (closing? T name k none ss).map (.after s)
          else if s.name = name then (closing? T name (depth + 1) none ss).map (.after s)
          else if T.isVerbatim s.name then (closing? T name depth (some s.name) ss).map (.after s)
          else (closing? T name depth none ss).map (.after s)

/-- The end of a block of the type `name`, from the text behind its opening tag.  A literal block
ends at the first tag that can close it. -/
def blockEnd? (T : TagTables) (name t : Text) : Option BlockEnd :=
  if T.isVerbatim name then firstNamed? (Tag.endOf name) (tagSpans t)
  else closing? T name 0 none (tagSpans t)

/-- The offsets of the delimiters of the tag that closes a block, where the search starts at a given
offset of a text. -/
def blockEndAt? (T : TagTables) (name t : Text) (start : Nat) : Option (Nat × Nat) :=
  if start ≤ t.length then
    (blockEnd? T name (t.drop start)).map fun e =>
      let opening := start + e.body.length
      (opening, opening + Delimiters.tag.opening.length + e.content.length)
  else none

/-! ## Nothing is lost -/

/-- The text that a list of spans goes through is the rest of the one before. -/
theorem tagSpans_cons {t : Text} {s : TagSpan} {ss : List TagSpan} (h : tagSpans t = s :: ss) :
    TagSpan.first? t = some s ∧ tagSpans s.rest = ss := by
  rw [tagSpans] at h
  split at h
  · simp at h
  · next u hu =>
      cases h
      exact ⟨hu, rfl⟩

theorem eq_of_firstNamed? {name t : Text} {e : BlockEnd}
    (h : firstNamed? name (tagSpans t) = some e) : t = e.body ++ e.raw ++ e.rest := by
  generalize hs : tagSpans t = spans at h
  induction spans generalizing t e with
  | nil => simp [firstNamed?] at h
  | cons s ss ih =>
      obtain ⟨h₁, h₂⟩ := tagSpans_cons hs
      simp only [firstNamed?] at h
      split at h
      · cases h
        exact TagSpan.eq_of_first? h₁
      · obtain ⟨e', he', rfl⟩ := Option.map_eq_some_iff.1 h
        have hr : s.rest = e'.body ++ e'.raw ++ e'.rest := ih h₂ he'
        rw [TagSpan.eq_of_first? h₁, hr]
        simp [BlockEnd.after, BlockEnd.raw]

theorem eq_of_closing? {T : TagTables} {name t : Text} {depth : Nat} {hidden : Option Text}
    {e : BlockEnd} (h : closing? T name depth hidden (tagSpans t) = some e) :
    t = e.body ++ e.raw ++ e.rest := by
  generalize hs : tagSpans t = spans at h
  induction spans generalizing t e depth hidden with
  | nil => simp [closing?] at h
  | cons s ss ih =>
      obtain ⟨h₁, h₂⟩ := tagSpans_cons hs
      -- Wherever the search goes on behind this tag, what it finds is put together with this tag.
      have step : ∀ {d hd e'}, closing? T name d hd ss = some e' →
          t = (BlockEnd.after s e').body ++ (BlockEnd.after s e').raw ++
            (BlockEnd.after s e').rest := by
        intro d hd e' he'
        have hr : s.rest = e'.body ++ e'.raw ++ e'.rest := ih h₂ he'
        rw [TagSpan.eq_of_first? h₁, hr]
        simp [BlockEnd.after, BlockEnd.raw]
      simp only [closing?] at h
      split at h
      · obtain ⟨e', he', rfl⟩ := Option.map_eq_some_iff.1 h
        exact step he'
      · split at h
        · split at h
          · cases h
            exact TagSpan.eq_of_first? h₁
          · obtain ⟨e', he', rfl⟩ := Option.map_eq_some_iff.1 h
            exact step he'
        · split at h
          · obtain ⟨e', he', rfl⟩ := Option.map_eq_some_iff.1 h
            exact step he'
          · split at h <;>
            · obtain ⟨e', he', rfl⟩ := Option.map_eq_some_iff.1 h
              exact step he'

/-- A text is the body of a block, its closing tag, and what stands behind. -/
theorem eq_of_blockEnd? {T : TagTables} {name t : Text} {e : BlockEnd}
    (h : blockEnd? T name t = some e) : t = e.body ++ e.raw ++ e.rest := by
  simp only [blockEnd?] at h
  split at h
  · exact eq_of_firstNamed? h
  · exact eq_of_closing? h

end LiquidMarkdown
