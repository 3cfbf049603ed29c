import LiquidMarkdown.Construct.Delimiters
import Mathlib.Data.List.DropRight
import Mathlib.Data.List.Induction
import Mathlib.Data.List.TakeWhile

/-!
# Where a tag's name stands

A tag's name is looked for twice: in the content between the delimiters, and again in what is left
when delimiters, dashes and blanks were stripped.  This file states:

* `Text.dropStart_append`, `Text.dropEnd_append` — trimming a class around a text;
* `Unicode.isWord_of_isBlank` — no blank is a word character;
* `Tag.Lead` — blanks with at most one dash among them;
* `Tag.nameOf?_eq_some_iff` — the name is the first word behind a lead;
* `Tag.nameOf?_strip_wrap` — the name of a stripped tag is that of its content without a dash;
* `Tag.nameOf?_strip` — a name that the content has is the name of the stripped tag.
-/

namespace LiquidMarkdown

/-! ## Trimming -/

namespace Text

variable {p : Char → Bool} {u v : Text}

theorem dropStart_append (hu : ∀ c ∈ u, p c = true) (hv : ∀ c ∈ v.head?, p c = false) :
    dropStart p (u ++ v) = v := by
  rw [dropStart, List.dropWhile_append_of_pos hu]
  cases v with
  | nil => rfl
  | cons c v => simp [hv c rfl]

theorem dropStart_eq_self (hv : ∀ c ∈ v.head?, p c = false) : dropStart p v = v :=
  dropStart_append (fun _ hc => absurd hc List.not_mem_nil) hv

/-- Trimming the end takes a part of what stands behind a last character outside the class. -/
theorem dropEnd_append (hu : ∀ c ∈ u.getLast?, p c = false) (v : Text) :
    ∃ v', v' <+: v ∧ dropEnd p (u ++ v) = u ++ v' := by
  refine ⟨dropEnd p v, ⟨takeEnd p v, dropEnd_append_takeEnd p v⟩, ?_⟩
  -- From the end, nothing of the first text is dropped.
  have hlast : u.reverse.dropWhile p = u.reverse := by
    cases hr : u.reverse with
    | nil => rfl
    | cons c r =>
        have hc : p c = false := by
          apply hu c
          rw [List.getLast?_eq_head?_reverse, hr]
          rfl
        simp [hc]
  simp only [dropEnd, List.reverse_append, List.dropWhile_append]
  by_cases hv : (v.reverse.dropWhile p).isEmpty
  · rw [if_pos hv, hlast, List.reverse_reverse, List.isEmpty_iff.1 hv]
    simp
  · rw [if_neg hv]
    simp

end Text

/-- No blank is a word character. -/
theorem Unicode.isWord_of_isBlank {c : Char} (h : Text.isBlank c = true) : isWord c = false := by
  -- There are few blanks, so each is tried.
  let codes : List Nat := [9, 10, 11, 12, 13, 0x1c, 0x1d, 0x1e, 0x1f, 0x20, 0x85, 0xa0, 0x1680,
    0x2000, 0x2001, 0x2002, 0x2003, 0x2004, 0x2005, 0x2006, 0x2007, 0x2008, 0x2009, 0x200a,
    0x2028, 0x2029, 0x202f, 0x205f, 0x3000]
  have hcodes : ∀ n ∈ codes, isWord (Char.ofNat n) = false := by decide +kernel
  have hmem : c.toNat ∈ codes := by
    simp only [Text.isBlank, Bool.or_eq_true, Bool.and_eq_true, decide_eq_true_eq,
      beq_iff_eq] at h
    simp only [codes, List.mem_cons, List.not_mem_nil, or_false]
    omega
  have hc := hcodes c.toNat hmem
  rwa [Char.ofNat_toNat] at hc

namespace Tag

/-! ## Leads -/

/-- Blanks with at most one dash among them. -/
def Lead (a : Text) : Prop :=
  ∃ p q, (∀ c ∈ p, Text.isBlank c = true) ∧ (∀ c ∈ q, Text.isBlank c = true) ∧
    (a = p ++ q ∨ a = p ++ '-' :: q)

/-- A word is not empty, and what stands behind it does not go on with it. -/
structure IsWord (w r : Text) : Prop where
  ne_nil : w ≠ []
  isWord : ∀ c ∈ w, Unicode.isWord c = true
  boundary : ∀ c ∈ r.head?, Unicode.isWord c = false

namespace IsWord

variable {w r r' : Text}

theorem takeWhile_eq (h : IsWord w r) : (w ++ r).takeWhile Unicode.isWord = w := by
  rw [List.takeWhile_append_of_pos h.isWord]
  cases r with
  | nil => simp
  | cons c r => simp [h.boundary c rfl]

theorem of_prefix (h : IsWord w r) (hr : r' <+: r) : IsWord w r' where
  ne_nil := h.ne_nil
  isWord := h.isWord
  boundary c hc := by
    rcases hr with ⟨s, rfl⟩
    cases r' with
    | nil => cases hc
    | cons d r' => exact h.boundary c hc

/-- A word begins neither with a blank nor with a dash. -/
theorem head?_append (h : IsWord w r) (v : Text) :
    ∀ c ∈ (w ++ v).head?, Text.isBlank c = false ∧ c ≠ '-' := by
  intro c hc
  cases hw : w with
  | nil => exact absurd hw h.ne_nil
  | cons d w' =>
      rw [hw] at hc
      have hd : Unicode.isWord c = true := by
        cases hc
        exact h.isWord c (hw ▸ List.mem_cons_self)
      constructor
      · apply Bool.eq_false_iff.2
        intro hblank
        rw [Unicode.isWord_of_isBlank hblank] at hd
        cases hd
      · rintro rfl
        exact absurd hd (by decide)

/-- Neither does it end with one. -/
theorem getLast?_append (h : IsWord w r) (a : Text) :
    ∀ c ∈ (a ++ w).getLast?, Text.isBlank c = false ∧ c ≠ '-' := by
  intro c hc
  have hmem : c ∈ w := by
    rw [List.getLast?_append, List.getLast?_eq_some_getLast h.ne_nil, Option.some_or] at hc
    cases hc
    exact List.getLast_mem h.ne_nil
  have hd := h.isWord c hmem
  constructor
  · apply Bool.eq_false_iff.2
    intro hblank
    rw [Unicode.isWord_of_isBlank hblank] at hd
    cases hd
  · rintro rfl
    exact absurd hd (by decide)

end IsWord

/-! ## Names -/

theorem dropDash_of_head? {t : Text} (h : ∀ c ∈ t.head?, c ≠ '-') : dropDash t = t := by
  cases t with
  | nil => rfl
  | cons c t =>
      have hc : c ≠ '-' := h c rfl
      unfold dropDash
      split
      · next heq =>
          cases heq
          exact absurd rfl hc
      · rfl

/-- Behind a lead, trimming and dropping a dash come to the word. -/
theorem nameOf?_lead {a w r : Text} (ha : Lead a) (hw : IsWord w r) :
    nameOf? (a ++ w ++ r) = some w := by
  have hhead (v : Text) : ∀ c ∈ (w ++ v).head?, Text.isBlank c = false :=
    fun c hc => (hw.head?_append v c hc).1
  have hdash (v : Text) : ∀ c ∈ (w ++ v).head?, c ≠ '-' := fun c hc => (hw.head?_append v c hc).2
  have hlast (b : Text) : ∀ c ∈ (b ++ w).getLast?, Text.isBlank c = false :=
    fun c hc => (hw.getLast?_append b c hc).1
  -- Whatever of the rest is trimmed, the word stays what comes first.
  have hword {t r' : Text} (ht : Text.trimStart (dropDash (Text.trim (a ++ w ++ r))) = t)
      (hr : t = w ++ r') (hpre : r' <+: r) : nameOf? (a ++ w ++ r) = some w := by
    simp only [nameOf?, ht, hr, (hw.of_prefix hpre).takeWhile_eq]
    exact if_neg hw.ne_nil
  rcases ha with ⟨p, q, hp, hq, rfl | rfl⟩
  · rcases Text.dropEnd_append (p := Text.isBlank) (u := [] ++ w) (hlast []) r with ⟨r', hpre, hr'⟩
    -- Without a dash, all blanks before the word are trimmed at once.
    have htrim : Text.trim (p ++ q ++ w ++ r) = w ++ r' := by
      have hblank : ∀ c ∈ p ++ q, Text.isBlank c = true := by
        intro c hc
        rcases List.mem_append.1 hc with hc | hc
        · exact hp c hc
        · exact hq c hc
      rw [Text.trim, Text.trimAll, List.append_assoc, Text.dropStart_append hblank (hhead r)]
      exact hr'
    refine hword ?_ rfl hpre
    rw [htrim, dropDash_of_head? (hdash r'), Text.trimStart, Text.dropStart_eq_self (hhead r')]
  · rcases Text.dropEnd_append (p := Text.isBlank) (hlast ('-' :: q)) r with ⟨r', hpre, hr'⟩
    -- With a dash, the blanks behind it are trimmed when it was dropped.
    have htrim : Text.trim (p ++ '-' :: q ++ w ++ r) = '-' :: (q ++ (w ++ r')) := by
      have hsplit : p ++ '-' :: q ++ w ++ r = p ++ ('-' :: q ++ w ++ r) := by simp
      rw [Text.trim, Text.trimAll, hsplit, Text.dropStart_append hp (by
        intro c hc
        cases hc
        decide), hr']
      simp
    refine hword ?_ rfl hpre
    rw [htrim]
    change Text.trimStart (q ++ (w ++ r')) = w ++ r'
    exact Text.dropStart_append hq (hhead r')

/-- A text is a dash, if it begins with one, and what is left when that is dropped. -/
theorem eq_dropDash (t : Text) : t = dropDash t ∨ t = '-' :: dropDash t := by
  unfold dropDash
  split
  · exact .inr rfl
  · exact .inl rfl

/-- The first word, and what stands behind it and behind blanks. -/
theorem isWord_takeWhile {t z : Text} (hne : t.takeWhile Unicode.isWord ≠ [])
    (hz : ∀ c ∈ z, Text.isBlank c = true) :
    IsWord (t.takeWhile Unicode.isWord) (t.dropWhile Unicode.isWord ++ z) where
  ne_nil := hne
  isWord c hc := List.mem_takeWhile_imp hc
  boundary c hc := by
    cases hr : t.dropWhile Unicode.isWord with
    | nil =>
        rw [hr, List.nil_append] at hc
        exact Unicode.isWord_of_isBlank (hz c (List.mem_of_mem_head? hc))
    | cons d r =>
        have hd := List.head?_dropWhile_not Unicode.isWord t
        rw [hr] at hc hd
        cases hc
        simpa using hd

/-- The name is the first word behind a lead. -/
theorem nameOf?_eq_some_iff {t w : Text} :
    nameOf? t = some w ↔ ∃ a r, t = a ++ w ++ r ∧ Lead a ∧ IsWord w r := by
  constructor
  · intro h
    simp only [nameOf?] at h
    split at h
    · cases h
    · next hne =>
        cases h
        -- The blanks that trimming takes from the start, from the end, and behind a dash.
        have hp : ∀ c ∈ t.takeWhile Text.isBlank, Text.isBlank c = true :=
          fun c hc => List.mem_takeWhile_imp hc
        have hz : ∀ c ∈ Text.takeEnd Text.isBlank (Text.trimStart t), Text.isBlank c = true := by
          intro c hc
          exact List.mem_takeWhile_imp (List.mem_reverse.1 hc)
        have hq : ∀ c ∈ (dropDash (Text.trim t)).takeWhile Text.isBlank, Text.isBlank c = true :=
          fun c hc => List.mem_takeWhile_imp hc
        have hword := isWord_takeWhile hne hz
        have hinner : dropDash (Text.trim t) =
            (dropDash (Text.trim t)).takeWhile Text.isBlank ++
              ((Text.trimStart (dropDash (Text.trim t))).takeWhile Unicode.isWord ++
                (Text.trimStart (dropDash (Text.trim t))).dropWhile Unicode.isWord) := by
          rw [List.takeWhile_append_dropWhile]
          exact List.takeWhile_append_dropWhile.symm
        have hstart : t.takeWhile Text.isBlank ++ Text.trimStart t = t :=
          List.takeWhile_append_dropWhile
        have houter : t = t.takeWhile Text.isBlank ++
            (Text.trim t ++ Text.takeEnd Text.isBlank (Text.trimStart t)) := by
          have hend : Text.trim t ++ Text.takeEnd Text.isBlank (Text.trimStart t) =
              Text.trimStart t :=
            Text.dropEnd_append_takeEnd _ _
          rw [hend, hstart]
        generalize Text.trim t = u at *
        generalize Text.takeEnd Text.isBlank (Text.trimStart t) = z at *
        generalize t.takeWhile Text.isBlank = p at *
        generalize (dropDash u).takeWhile Text.isBlank = q at *
        generalize (Text.trimStart (dropDash u)).takeWhile Unicode.isWord = w at *
        generalize (Text.trimStart (dropDash u)).dropWhile Unicode.isWord = r at *
        rcases eq_dropDash u with hdash | hdash
        · refine ⟨p ++ q, r ++ z, ?_, ⟨p, q, hp, hq, .inl rfl⟩, hword⟩
          rw [houter, hdash, hinner]
          simp
        · refine ⟨p ++ '-' :: q, r ++ z, ?_, ⟨p, q, hp, hq, .inr rfl⟩, hword⟩
          rw [houter, hdash, hinner]
          simp
  · rintro ⟨a, r, rfl, ha, hw⟩
    exact nameOf?_lead ha hw

/-! ## Stripped tags -/

/-- What is stripped at the end of a tag is a part of what stands behind the word. -/
theorem exists_trimEnd_word {a w r : Text} (hw : IsWord w r) :
    ∃ r', r' <+: r ∧ Text.trimEnd (dropDash (a ++ w ++ r).reverse).reverse = a ++ w ++ r' := by
  have hlast : ∀ c ∈ (a ++ w).getLast?, Text.isBlank c = false ∧ c ≠ '-' := hw.getLast?_append a
  have hdash : ∃ r₁, r₁ <+: r ∧ (dropDash (a ++ w ++ r).reverse).reverse = a ++ w ++ r₁ := by
    rcases eq_dropDash (a ++ w ++ r).reverse with h | h
    · exact ⟨r, List.prefix_rfl, by rw [← h, List.reverse_reverse]⟩
    · have hconcat : a ++ w ++ r = (dropDash (a ++ w ++ r).reverse).reverse ++ ['-'] := by
        rw [← List.reverse_cons, ← h, List.reverse_reverse]
      generalize (dropDash (a ++ w ++ r).reverse).reverse = u at hconcat
      -- The dash that is dropped is not the end of the word.
      cases r using List.reverseRecOn with
      | nil =>
          rw [List.append_nil] at hconcat
          exact absurd rfl (hlast '-' (by simp [hconcat])).2
      | append_singleton r c =>
          rw [← List.append_assoc] at hconcat
          have hparts := List.append_inj' hconcat rfl
          exact ⟨r, List.prefix_append r [c], hparts.1.symm⟩
  rcases hdash with ⟨r₁, hpre₁, h₁⟩
  rcases Text.dropEnd_append (p := Text.isBlank)
    (fun c hc => (hlast c hc).1) r₁ with ⟨r₂, hpre₂, h₂⟩
  exact ⟨r₂, hpre₂.trans hpre₁, by rw [h₁, Text.trimEnd, h₂]⟩

/-- Blanks at the start do not matter. -/
theorem nameOf?_trimStart (t : Text) : nameOf? (Text.trimStart t) = nameOf? t := by
  have htrim : Text.trim (Text.trimStart t) = Text.trim t := by
    simp only [Text.trim, Text.trimAll, Text.trimStart, Text.dropStart, List.dropWhile_idempotent]
  rw [nameOf?, nameOf?, htrim]

/-- Neither do a dash at the end and the blanks before it. -/
theorem nameOf?_stripEnd (u : Text) :
    nameOf? (Text.trimEnd (dropDash u.reverse).reverse) = nameOf? u := by
  -- What is stripped goes on with no word.
  have hstripped : ∃ z, u = Text.trimEnd (dropDash u.reverse).reverse ++ z ∧
      ∀ c ∈ z.head?, Unicode.isWord c = false := by
    have hblanks := Text.dropEnd_append_takeEnd Text.isBlank (dropDash u.reverse).reverse
    have hz : ∀ c ∈ Text.takeEnd Text.isBlank (dropDash u.reverse).reverse,
        Unicode.isWord c = false := by
      intro c hc
      exact Unicode.isWord_of_isBlank (List.mem_takeWhile_imp (List.mem_reverse.1 hc))
    generalize Text.takeEnd Text.isBlank (dropDash u.reverse).reverse = z at hblanks hz
    rcases eq_dropDash u.reverse with h | h
    · refine ⟨z, ?_, fun c hc => hz c (List.mem_of_mem_head? hc)⟩
      rw [Text.trimEnd, hblanks, ← h, List.reverse_reverse]
    · refine ⟨z ++ ['-'], ?_, fun c hc => ?_⟩
      · rw [Text.trimEnd, ← List.append_assoc, hblanks, ← List.reverse_cons, ← h,
          List.reverse_reverse]
      · rcases List.mem_append.1 (List.mem_of_mem_head? hc) with hc | hc
        · exact hz c hc
        · rw [List.mem_singleton.1 hc]
          decide
  apply Option.ext
  intro w
  constructor
  · intro h
    rcases nameOf?_eq_some_iff.1 h with ⟨a, r, heq, ha, hw⟩
    rcases hstripped with ⟨z, hu, hz⟩
    have hword : IsWord w (r ++ z) := by
      refine ⟨hw.ne_nil, hw.isWord, fun c hc => ?_⟩
      cases r with
      | nil => exact hz c hc
      | cons d r => exact hw.boundary c hc
    rw [hu, heq, List.append_assoc]
    exact nameOf?_lead ha hword
  · intro h
    rcases nameOf?_eq_some_iff.1 h with ⟨a, r, rfl, ha, hw⟩
    rcases exists_trimEnd_word (a := a) hw with ⟨r', hpre, heq⟩
    rw [heq]
    exact nameOf?_lead ha (hw.of_prefix hpre)

/-- Stripping takes the delimiters, and then a dash and the blanks inside at either end. -/
theorem strip_wrap (content : Text) : Delimiters.tag.strip (Delimiters.tag.wrap content) =
    Text.trimEnd (dropDash (Text.trimStart (dropDash content)).reverse).reverse := by
  -- The closing delimiter begins neither with a dash nor with a blank.
  have hdash : dropDash (content ++ Delimiters.tag.closing) =
      dropDash content ++ Delimiters.tag.closing := by
    rcases eq_dropDash content with h | h
    · cases content with
      | nil => rfl
      | cons c content =>
          apply (dropDash_of_head? fun d hd => ?_).trans
          · rw [← h]
          · cases hd
            rintro rfl
            exact absurd h (by simp [dropDash])
    · rw [h]
      rfl
  have hblanks (u : Text) : Text.trimStart (u ++ Delimiters.tag.closing) =
      Text.trimStart u ++ Delimiters.tag.closing := by
    have hclosing : Delimiters.tag.closing.dropWhile Text.isBlank = Delimiters.tag.closing := by
      decide
    rw [Text.trimStart, Text.dropStart, Text.trimStart, Text.dropStart, List.dropWhile_append]
    split
    · next hnil => rw [hclosing, List.isEmpty_iff.1 hnil, List.nil_append]
    · rfl
  have hopening : Delimiters.tag.stripOpening (Delimiters.tag.wrap content) =
      Text.trimStart (dropDash content) ++ Delimiters.tag.closing := by
    have hprefix : Text.dropPrefix? Delimiters.tag.opening (Delimiters.tag.wrap content) =
        some (content ++ Delimiters.tag.closing) := by
      rw [Text.dropPrefix?_eq_some, Delimiters.wrap, List.append_assoc]
    rw [Delimiters.stripOpening, hprefix, ← hblanks, ← hdash]
  have hclosing (u : Text) : Delimiters.tag.stripClosingAtEnd? (u ++ Delimiters.tag.closing) =
      some (Text.trimEnd (dropDash u.reverse).reverse) := by
    have hprefix : Text.dropPrefix? Delimiters.tag.closing.reverse
        (u ++ Delimiters.tag.closing).reverse = some u.reverse := by
      rw [Text.dropPrefix?_eq_some, List.reverse_append]
    rw [Delimiters.stripClosingAtEnd?, hprefix, Option.map_some]
  rw [Delimiters.strip, hopening, Delimiters.stripClosing, hclosing]

/-- The name of a stripped tag is that of its content without a dash at the start. -/
theorem nameOf?_strip_wrap (content : Text) :
    nameOf? (Delimiters.tag.strip (Delimiters.tag.wrap content)) = nameOf? (dropDash content) := by
  rw [strip_wrap, nameOf?_stripEnd, nameOf?_trimStart]

/-- A dash that is dropped takes no name away. -/
theorem nameOf?_dropDash {content w : Text} (h : nameOf? content = some w) :
    nameOf? (dropDash content) = some w := by
  rcases nameOf?_eq_some_iff.1 h with ⟨a, r, hcontent, ha, hw⟩
  rcases eq_dropDash content with hdash | hdash
  · rw [← hdash, h]
  · rw [hdash] at hcontent
    generalize dropDash content = rest at hcontent ⊢
    rcases ha with ⟨p, q, hp, hq, rfl | rfl⟩
    · -- Without a dash in the lead the content begins with a blank or with the word.
      exfalso
      cases hpq : p ++ q with
      | nil =>
          rw [hpq, List.nil_append] at hcontent
          have hhead := hw.head?_append r '-'
          rw [← hcontent] at hhead
          exact (hhead rfl).2 rfl
      | cons d s =>
          rw [hpq] at hcontent
          cases hcontent
          have hmem : '-' ∈ p ++ q := hpq ▸ List.mem_cons_self
          rcases List.mem_append.1 hmem with hc | hc
          · exact absurd (hp _ hc) (by decide)
          · exact absurd (hq _ hc) (by decide)
    · cases p with
      | cons d p =>
          cases hcontent
          exact absurd (hp '-' List.mem_cons_self) (by decide)
      | nil =>
          cases hcontent
          exact nameOf?_lead ⟨q, [], hq, fun _ hc => absurd hc List.not_mem_nil,
            .inl (List.append_nil q).symm⟩ hw

/-- A name that the content of a tag has is the name of the tag when it is stripped. -/
theorem nameOf?_strip {content w : Text} (h : nameOf? content = some w) :
    nameOf? (Delimiters.tag.strip (Delimiters.tag.wrap content)) = some w := by
  rw [nameOf?_strip_wrap, nameOf?_dropDash h]

end Tag
end LiquidMarkdown
