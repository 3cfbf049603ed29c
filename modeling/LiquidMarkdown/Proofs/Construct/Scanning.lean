import LiquidMarkdown.Construct.Piece

/-!
# Scanning for tags

A scan finds the first delimiter, then the first delimiter that closes it, and goes on behind.  What
it finds depends on no more than the text up to there.  This file states:

* `Text.breakOn_of_append`, `Text.breakOn_append` — cutting a text that goes on in another way, or
  is longer;
* `Text.breakOn_of_breakOn_eq_none` — cutting behind a text without an occurrence;
* `TagSpan.first?_append` — the first tag of a text with other text behind that tag;
* `tagNames` — the names of the successive tags of a text;
* `joined` — the text that spans cover, `tagSpans_split`;
* `tagNames_joined` — the tags of the text before a tag are the tags before it.
-/

namespace LiquidMarkdown

/-! ## Cutting -/

namespace Text

variable {p t a b u : Text}

theorem dropPrefix?_append {r : Text} (h : dropPrefix? p t = some r) (u : Text) :
    dropPrefix? p (t ++ u) = some (r ++ u) := by
  rw [dropPrefix?_eq_some] at h ⊢
  rw [h, List.append_assoc]

/-- A text that does not begin with a pattern does not with more behind it, if it is as long as the
pattern. -/
theorem dropPrefix?_append_eq_none (h : dropPrefix? p t = none) (hlen : p.length ≤ t.length)
    (u : Text) : dropPrefix? p (t ++ u) = none := by
  cases hr : dropPrefix? p (t ++ u) with
  | none => rfl
  | some r =>
      have heq : t ++ u = p ++ r := dropPrefix?_eq_some.1 hr
      have hpre : p <+: t := by
        refine List.prefix_of_prefix_length_le ?_ (List.prefix_append t u) hlen
        exact ⟨r, heq.symm⟩
      rcases hpre with ⟨s, hs⟩
      rw [dropPrefix?_eq_some.2 hs.symm] at h
      cases h

theorem breakOn_nil (hp : p ≠ []) : breakOn p [] = none := by
  cases p with
  | nil => exact absurd rfl hp
  | cons c p => rfl

/-- Cutting at an occurrence does not depend on what stands behind the occurrence. -/
theorem breakOn_of_append (h : breakOn p t = some (a, b)) (hp : p ≠ []) (u : Text) :
    breakOn p (a ++ p ++ u) = some (a, u) := by
  induction t generalizing a b with
  | nil =>
      rw [breakOn_nil hp] at h
      cases h
  | cons c cs ih =>
      simp only [breakOn] at h
      cases hc : dropPrefix? p (c :: cs) with
      | some r =>
          rw [hc] at h
          cases h
          rw [List.nil_append]
          cases p with
          | nil => exact absurd rfl hp
          | cons d p =>
              have hr : dropPrefix? (d :: p) (d :: p ++ u) = some u := dropPrefix?_eq_some.2 rfl
              simp only [List.cons_append] at hr ⊢
              simp only [breakOn, hr]
      | none =>
          rw [hc] at h
          rcases Option.map_eq_some_iff.1 h with ⟨⟨x, y⟩, hxy, hab⟩
          cases hab
          -- The pattern does not start here, for it did not with more behind it.
          have hshort : dropPrefix? p (c :: (x ++ p)) = none := by
            cases hs : dropPrefix? p (c :: (x ++ p)) with
            | none => rfl
            | some s =>
                have hlong := dropPrefix?_append hs y
                rw [List.cons_append, ← breakOn_eq_some hxy, hc] at hlong
                cases hlong
          have hlen : p.length ≤ (c :: (x ++ p)).length := by
            simp only [List.length_cons, List.length_append]
            omega
          have hnone := dropPrefix?_append_eq_none hshort hlen u
          simp only [List.cons_append] at hnone ⊢
          simp only [breakOn, hnone, ih hxy, Option.map_some]

theorem breakOn_append (h : breakOn p t = some (a, b)) (hp : p ≠ []) (u : Text) :
    breakOn p (t ++ u) = some (a, b ++ u) := by
  rw [breakOn_eq_some h, List.append_assoc]
  exact breakOn_of_append h hp (b ++ u)

/-- Before the first occurrence there is none. -/
theorem breakOn_before (h : breakOn p t = some (a, b)) (hp : p ≠ []) : breakOn p a = none := by
  cases ha : breakOn p a with
  | none => rfl
  | some xy =>
      rcases xy with ⟨x, y⟩
      have hlong := breakOn_append ha hp (p ++ b)
      rw [← List.append_assoc, ← breakOn_eq_some h, h] at hlong
      -- What is cut off is shorter than the whole.
      rw [Option.some.injEq, Prod.mk.injEq] at hlong
      have hlen := congrArg List.length hlong.2
      have hpos : 0 < p.length := List.length_pos_iff.2 hp
      simp only [List.length_append] at hlen
      omega

/-- Where a text without an occurrence cannot begin one, the first one is found behind it. -/
theorem breakOn_of_breakOn_eq_none {x y : Char} (h : breakOn [x, y] t = none)
    (hlast : ∀ c ∈ t.getLast?, ∀ d ∈ u.head?, ¬ (c = x ∧ d = y)) :
    breakOn [x, y] (t ++ u) = (breakOn [x, y] u).map fun s => (t ++ s.1, s.2) := by
  induction t with
  | nil => simp
  | cons c cs ih =>
      simp only [breakOn] at h
      cases hc : dropPrefix? [x, y] (c :: cs) with
      | some r =>
          rw [hc] at h
          cases h
      | none =>
          rw [hc] at h
          have hcs : breakOn [x, y] cs = none := by simpa using h
          -- The two characters are both in the text, or one of them is in what stands behind it.
          have hnone : dropPrefix? [x, y] (c :: (cs ++ u)) = none := by
            cases cs with
            | nil =>
                cases u with
                | nil => exact hc
                | cons d u =>
                    have hcd : ¬ (c = x ∧ d = y) := hlast c rfl d rfl
                    by_cases hx : x = c
                    · by_cases hy : y = d
                      · exact absurd ⟨hx.symm, hy.symm⟩ hcd
                      · simp [dropPrefix?, hy]
                    · simp [dropPrefix?, hx]
            | cons d cs =>
                have hlen : [x, y].length ≤ (c :: d :: cs).length := by simp
                exact dropPrefix?_append_eq_none hc hlen u
          have hrest := ih hcs fun e he => by
            apply hlast e
            cases cs with
            | nil => cases he
            | cons d cs => simpa using he
          simp only [List.cons_append, breakOn, hnone, hrest, Option.map_map]
          rfl

end Text

/-! ## Tags -/

namespace TagSpan

variable {t : Text} {s : TagSpan}

theorem first?_eq_some_iff : first? t = some s ↔
    ∃ inside, Text.breakOn Delimiters.tag.opening t = some (s.before, inside) ∧
      Text.breakOn Delimiters.tag.closing inside = some (s.content, s.rest) := by
  rcases s with ⟨before, content, rest⟩
  simp only [first?, Option.bind_eq_bind, Option.bind_eq_some_iff, Option.pure_def]
  constructor
  · rintro ⟨⟨a, b⟩, hab, ⟨c, d⟩, hcd, hs⟩
    cases hs
    exact ⟨b, hab, hcd⟩
  · rintro ⟨inside, hab, hcd⟩
    exact ⟨_, hab, _, hcd, rfl⟩

/-- The first tag of a text is the first one with any text behind it. -/
theorem first?_append (h : first? t = some s) (u : Text) :
    first? (s.before ++ s.raw ++ u) = some ⟨s.before, s.content, u⟩ := by
  rcases first?_eq_some_iff.1 h with ⟨inside, hopening, hclosing⟩
  refine first?_eq_some_iff.2 ⟨s.content ++ Delimiters.tag.closing ++ u, ?_, ?_⟩
  · have hcut := Text.breakOn_of_append hopening (by decide)
      (s.content ++ Delimiters.tag.closing ++ u)
    simpa [raw, Delimiters.wrap] using hcut
  · exact Text.breakOn_of_append hclosing (by decide) u

/-- There is no tag before the first one. -/
theorem first?_before (h : first? t = some s) : first? s.before = none := by
  rcases first?_eq_some_iff.1 h with ⟨inside, hopening, _⟩
  have hnone := Text.breakOn_before hopening (by decide)
  rw [first?, hnone]
  rfl

end TagSpan

/-! ## Tags in a row -/

variable {t u : Text} {s : TagSpan} {pre post : List TagSpan}

theorem tagSpans_of_first?_eq_none (h : TagSpan.first? t = none) : tagSpans t = [] := by
  rw [tagSpans]
  split
  · rfl
  · next s hs =>
      rw [h] at hs
      cases hs

theorem tagSpans_of_first?_eq_some (h : TagSpan.first? t = some s) :
    tagSpans t = s :: tagSpans s.rest := by
  rw [tagSpans]
  split
  · next hs =>
      rw [h] at hs
      cases hs
  · next s' hs =>
      rw [h] at hs
      cases hs
      rfl

/-- The names of the successive tags of a text. -/
def tagNames (t : Text) : List Text :=
  (tagSpans t).map TagSpan.name

theorem tagNames_of_first?_eq_some (h : TagSpan.first? t = some s) :
    tagNames t = s.name :: tagNames s.rest := by
  rw [tagNames, tagSpans_of_first?_eq_some h, List.map_cons]
  rfl

theorem tagNames_of_breakOn_eq_none (h : Text.breakOn Delimiters.tag.opening t = none) :
    tagNames t = [] := by
  have hfirst : TagSpan.first? t = none := by
    rw [TagSpan.first?, h]
    rfl
  rw [tagNames, tagSpans_of_first?_eq_none hfirst]
  rfl

/-- Text before the first delimiter of a tag makes no difference to the names. -/
theorem tagNames_of_breakOn {v : Text}
    (h : Text.breakOn Delimiters.tag.opening t =
      (Text.breakOn Delimiters.tag.opening u).map fun s => (v ++ s.1, s.2)) :
    tagNames t = tagNames u := by
  cases hu : Text.breakOn Delimiters.tag.opening u with
  | none =>
      have ht : Text.breakOn Delimiters.tag.opening t = none := by
        rw [h, hu]
        rfl
      rw [tagNames_of_breakOn_eq_none ht, tagNames_of_breakOn_eq_none hu]
  | some xy =>
      rcases xy with ⟨a, inside⟩
      have ht : Text.breakOn Delimiters.tag.opening t = some (v ++ a, inside) := by
        rw [h, hu]
        rfl
      -- Behind the delimiter that was found both texts are the same.
      cases hc : Text.breakOn Delimiters.tag.closing inside with
      | none =>
          have hfirst (w b : Text) (hw : Text.breakOn Delimiters.tag.opening w = some (b, inside)) :
              tagNames w = [] := by
            have hnone : TagSpan.first? w = none := by
              rw [TagSpan.first?, hw]
              simp [hc]
            rw [tagNames, tagSpans_of_first?_eq_none hnone]
            rfl
          rw [hfirst t _ ht, hfirst u _ hu]
      | some cr =>
          rcases cr with ⟨content, rest⟩
          have hfirst (w b : Text) (hw : Text.breakOn Delimiters.tag.opening w = some (b, inside)) :
              TagSpan.first? w = some ⟨b, content, rest⟩ :=
            TagSpan.first?_eq_some_iff.2 ⟨inside, hw, hc⟩
          rw [tagNames_of_first?_eq_some (hfirst t _ ht),
            tagNames_of_first?_eq_some (hfirst u _ hu)]
          rfl

/-- The text that some tags cover, each with the text before it. -/
def joined (ss : List TagSpan) : Text :=
  ss.flatMap fun s => s.before ++ s.raw

/-- The tags behind a tag are those of the text behind it. -/
theorem tagSpans_split (h : tagSpans t = pre ++ s :: post) : tagSpans s.rest = post := by
  induction pre generalizing t with
  | nil => exact (tagSpans_cons h).2
  | cons s₀ pre ih => exact ih (tagSpans_cons h).2

/-- The tags of the text before a tag are the tags before it. -/
theorem tagNames_joined (h : tagSpans t = pre ++ s :: post) :
    tagNames (joined pre ++ s.before) = pre.map TagSpan.name := by
  induction pre generalizing t with
  | nil =>
      have hfirst := TagSpan.first?_before (tagSpans_cons h).1
      simp [tagNames, joined, tagSpans_of_first?_eq_none hfirst]
  | cons s₀ pre ih =>
      rcases tagSpans_cons h with ⟨hfirst, hrest⟩
      have hsplit : joined (s₀ :: pre) ++ s.before =
          s₀.before ++ s₀.raw ++ (joined pre ++ s.before) := by
        simp [joined]
      have hcut := TagSpan.first?_append hfirst (joined pre ++ s.before)
      rw [hsplit, tagNames_of_first?_eq_some hcut, ih hrest]
      rfl

end LiquidMarkdown
