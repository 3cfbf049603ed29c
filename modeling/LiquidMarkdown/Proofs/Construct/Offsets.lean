import LiquidMarkdown.Proofs.Construct.Leftmost
import LiquidMarkdown.Proofs.Text.Slice

/-!
# The tags of a text by their offsets

The scan for tags cuts a text into spans.  Seen from the text that it cuts, a tag is a pair of
offsets, those of its two delimiters.  This file defines:

* `Text.FirstFrom` — the first place, from an offset on, at which a text stands in another;
* `SuccessiveTags` — the successive tags of a text from an offset on, each closed by the first
  delimiter that can close it;
* `offsetsOf` — the offsets of spans that were cut off from a given offset on;
* `successiveTags_offsetsOf` — the scan finds the successive tags, and reads their names.
-/

namespace LiquidMarkdown

/-! ## First occurrences -/

namespace Text

variable {p t a b : Text} {start i j : Nat}

/-- The text `p` stands in `t` at the offset `stop`, and not earlier behind `start`. -/
structure FirstFrom (p t : Text) (start stop : Nat) : Prop where
  le : start ≤ stop
  occursAt : p.OccursAt t stop
  first : ∀ k, start ≤ k → p.OccursAt t k → stop ≤ k

theorem FirstFrom.unique (hi : p.FirstFrom t start i) (hj : p.FirstFrom t start j) : i = j := by
  apply Nat.le_antisymm
  · exact hi.first j hj.le hj.occursAt
  · exact hj.first i hi.le hi.occursAt

/-- What stands in a text behind an offset stands in the text that begins there. -/
theorem exists_of_occursAt_drop (h : p.OccursAt t j) (hj : start ≤ j) :
    ∃ pre post, t.drop start = pre ++ p ++ post ∧ start + pre.length = j := by
  rcases h with ⟨pre, post, rfl, rfl⟩
  refine ⟨pre.drop start, post, ?_, ?_⟩
  · rw [List.append_assoc, List.drop_append_of_le_length hj, ← List.append_assoc]
  · rw [List.length_drop]
    omega

theorem occursAt_of_drop (h : t.drop start = a ++ p ++ b) (hstart : start ≤ t.length) :
    p.OccursAt t (start + a.length) := by
  refine ⟨t.take start ++ a, b, ?_, ?_⟩
  · calc
      t = t.take start ++ t.drop start := (List.take_append_drop start t).symm
      _ = t.take start ++ a ++ p ++ b := by rw [h]; simp
  · rw [List.length_append, List.length_take, Nat.min_eq_left hstart]

/-- Where a text is cut for the first time, the pattern stands for the first time. -/
theorem firstFrom_of_breakOn (hp : p ≠ []) (h : breakOn p (t.drop start) = some (a, b))
    (hstart : start ≤ t.length) : p.FirstFrom t start (start + a.length) := by
  rcases (breakOn_eq_some_iff hp).1 h with ⟨heq, hfirst⟩
  refine ⟨Nat.le_add_right _ _, occursAt_of_drop heq hstart, ?_⟩
  intro k hk hoccurs
  rcases exists_of_occursAt_drop hoccurs hk with ⟨pre, post, hdrop, rfl⟩
  -- An occurrence before the cut would have been the place of the cut.
  by_contra hlt
  have hlen : (pre ++ p).length ≤ (a ++ p).length := by
    simp only [List.length_append]
    omega
  have hprefix : pre ++ p <+: a ++ p := by
    refine List.prefix_of_prefix_length_le ?_ (List.prefix_append (a ++ p) b) hlen
    rw [← heq, hdrop]
    exact List.prefix_append _ _
  rw [hfirst pre hprefix] at hlt
  exact hlt (Nat.le_refl _)

/-- What is behind a cut begins behind the occurrence. -/
theorem drop_of_breakOn (h : breakOn p (t.drop start) = some (a, b)) :
    t.drop (start + a.length + p.length) = b := by
  calc
    t.drop (start + a.length + p.length) = (t.drop start).drop (a ++ p).length := by
      rw [List.drop_drop, List.length_append, Nat.add_assoc]
    _ = b := by rw [breakOn_eq_some h, List.drop_left]

/-- A text that is not cut holds no occurrence. -/
theorem not_occursAt_of_breakOn (h : breakOn p (t.drop start) = none) (hj : start ≤ j) :
    ¬ p.OccursAt t j := by
  intro hoccurs
  rcases exists_of_occursAt_drop hoccurs hj with ⟨pre, post, hdrop, _⟩
  exact breakOn_eq_none_iff.1 h ⟨pre, post, hdrop.symm⟩

end Text

/-! ## Successive tags -/

/-- The tags of a text from an offset on, each given by the offsets of its delimiters: a tag begins
at the first delimiter that can open one and ends with the first that can close it, and the next is
looked for behind.  There is no further tag where no delimiter that opens one has a delimiter behind
it that closes it. -/
inductive SuccessiveTags (t : Text) : Nat → List (Nat × Nat) → Prop
  | nil {start : Nat}
      (none_left : ∀ o c, start ≤ o → Delimiters.tag.opening.OccursAt t o → o + 2 ≤ c →
        ¬ Delimiters.tag.closing.OccursAt t c) : SuccessiveTags t start []
  | cons {start o c : Nat} {tags : List (Nat × Nat)}
      (opening : Delimiters.tag.opening.FirstFrom t start o)
      (closing : Delimiters.tag.closing.FirstFrom t (o + 2) c)
      (rest : SuccessiveTags t (c + 2) tags) : SuccessiveTags t start ((o, c) :: tags)

/-- The name of the tag with the given offsets. -/
def Text.tagNameAt (t : Text) (tag : Nat × Nat) : Text :=
  Tag.nameOf (t.slice (tag.1 + 2) tag.2)

theorem SuccessiveTags.unique {t : Text} {start : Nat} {tags tags' : List (Nat × Nat)}
    (h : SuccessiveTags t start tags) (h' : SuccessiveTags t start tags') : tags = tags' := by
  induction h generalizing tags' with
  | nil none_left =>
      cases h' with
      | nil _ => rfl
      | cons opening closing _ =>
          exact absurd closing.occursAt
            (none_left _ _ opening.le opening.occursAt closing.le)
  | cons opening closing _ ih =>
      cases h' with
      | nil none_left =>
          exact absurd closing.occursAt
            (none_left _ _ opening.le opening.occursAt closing.le)
      | cons opening' closing' rest' =>
          cases opening.unique opening'
          cases closing.unique closing'
          rw [ih rest']

/-- Each of the successive tags stands in the text, from where the search for them starts. -/
theorem SuccessiveTags.of_mem {t : Text} {start : Nat} {tags : List (Nat × Nat)}
    (h : SuccessiveTags t start tags) {tag : Nat × Nat} (hm : tag ∈ tags) :
    start ≤ tag.1 ∧ tag.1 + 2 ≤ tag.2 ∧ Delimiters.tag.opening.OccursAt t tag.1 ∧
      Delimiters.tag.closing.OccursAt t tag.2 := by
  induction h with
  | nil _ => cases hm
  | cons opening closing _ ih =>
      rcases List.mem_cons.1 hm with rfl | hm
      · exact ⟨opening.le, closing.le, opening.occursAt, closing.occursAt⟩
      · rcases ih hm with ⟨hle, hrest⟩
        have ho := opening.le
        have hc := closing.le
        exact ⟨by omega, hrest⟩

/-- There is no tag behind the end of a text. -/
theorem successiveTags_of_length_lt {t : Text} {start : Nat} (h : t.length < start) :
    SuccessiveTags t start [] := by
  apply SuccessiveTags.nil
  intro o c ho hopening
  have hle := hopening.le_length
  omega

/-- The offsets of the delimiters of tags that were cut off a text, one after another, from the
offset `start` on. -/
def offsetsOf (start : Nat) : List TagSpan → List (Nat × Nat)
  | [] => []
  | s :: ss =>
      let o := start + s.before.length
      let c := o + 2 + s.content.length
      (o, c) :: offsetsOf (c + 2) ss

section

variable {t : Text} {start : Nat} {s : TagSpan}

/-- The first tag behind an offset, and where the text behind the tag begins. -/
theorem exists_of_first?_drop (h : TagSpan.first? (t.drop start) = some s)
    (hstart : start ≤ t.length) :
    Delimiters.tag.opening.FirstFrom t start (start + s.before.length) ∧
      Delimiters.tag.closing.FirstFrom t (start + s.before.length + 2)
        (start + s.before.length + 2 + s.content.length) ∧
      t.slice (start + s.before.length + 2) (start + s.before.length + 2 + s.content.length) =
        s.content ∧
      t.drop (start + s.before.length + 2 + s.content.length + 2) = s.rest := by
  rcases TagSpan.first?_eq_some_iff.1 h with ⟨inside, hopening, hclosing⟩
  have hopens := Text.firstFrom_of_breakOn (by decide) hopening hstart
  have hle : start + s.before.length + 2 ≤ t.length := hopens.occursAt.le_length
  have hinside : t.drop (start + s.before.length + 2) = inside := Text.drop_of_breakOn hopening
  rw [← hinside] at hclosing
  have hcloses := Text.firstFrom_of_breakOn (by decide) hclosing hle
  have hcontent : s.content.OccursAt t (start + s.before.length + 2) := by
    refine Text.occursAt_of_drop (a := []) (b := Delimiters.tag.closing ++ s.rest) ?_ hle
    rw [Text.breakOn_eq_some hclosing, List.nil_append, List.append_assoc]
  exact ⟨hopens, hcloses, hcontent.slice_eq, Text.drop_of_breakOn hclosing⟩

/-- Where the scan finds no tag, there is none. -/
theorem none_left_of_first?_drop (h : TagSpan.first? (t.drop start) = none)
    (hstart : start ≤ t.length) {o c : Nat} (ho : start ≤ o)
    (hopening : Delimiters.tag.opening.OccursAt t o) (hc : o + 2 ≤ c) :
    ¬ Delimiters.tag.closing.OccursAt t c := by
  intro hclosing
  cases hbefore : Text.breakOn Delimiters.tag.opening (t.drop start) with
  | none => exact Text.not_occursAt_of_breakOn hbefore ho hopening
  | some r =>
      rcases r with ⟨before, inside⟩
      have hfirst := Text.firstFrom_of_breakOn (by decide) hbefore hstart
      have hle : start + before.length ≤ o := hfirst.first o ho hopening
      have hinside : t.drop (start + before.length + 2) = inside := Text.drop_of_breakOn hbefore
      cases hcontent : Text.breakOn Delimiters.tag.closing inside with
      | none =>
          -- What closes a later tag would close the first.
          rw [← hinside] at hcontent
          exact Text.not_occursAt_of_breakOn hcontent (by omega) hclosing
      | some r =>
          have hsome : TagSpan.first? (t.drop start) = some ⟨before, r.1, r.2⟩ :=
            TagSpan.first?_eq_some_iff.2 ⟨inside, hbefore, hcontent⟩
          rw [hsome] at h
          cases h

theorem first?_eq_none_of_tagSpans (h : tagSpans t = []) : TagSpan.first? t = none := by
  cases hfirst : TagSpan.first? t with
  | none => rfl
  | some s =>
      rw [tagSpans_of_first?_eq_some hfirst] at h
      cases h

/-- The scan finds the successive tags, with their names. -/
theorem successiveTags_offsetsOf (hstart : start ≤ t.length) :
    SuccessiveTags t start (offsetsOf start (tagSpans (t.drop start))) ∧
      (offsetsOf start (tagSpans (t.drop start))).map t.tagNameAt =
        tagNames (t.drop start) := by
  generalize hs : tagSpans (t.drop start) = spans
  rw [tagNames, hs]
  -- Every tag is found behind the one before it, so the place to start from moves on.
  induction spans generalizing start with
  | nil =>
      have hnone := first?_eq_none_of_tagSpans hs
      refine ⟨.nil ?_, rfl⟩
      intro o c ho hopening hc
      exact none_left_of_first?_drop hnone hstart ho hopening hc
  | cons s ss ih =>
      rcases tagSpans_cons hs with ⟨hfirst, hrest⟩
      rcases exists_of_first?_drop hfirst hstart with ⟨hopens, hcloses, hcontent, hdrop⟩
      rw [← hdrop] at hrest
      rcases ih hcloses.occursAt.le_length hrest with ⟨htags, hnames⟩
      refine ⟨.cons hopens hcloses htags, ?_⟩
      calc
        (offsetsOf start (s :: ss)).map t.tagNameAt
            = Tag.nameOf (t.slice (start + s.before.length + 2)
                (start + s.before.length + 2 + s.content.length)) :: ss.map TagSpan.name := by
              rw [← hnames]
              rfl
        _ = (s :: ss).map TagSpan.name := by
              rw [hcontent]
              rfl

end

end LiquidMarkdown
