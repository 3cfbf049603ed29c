import LiquidMarkdown.Proofs.Tag.Name
import LiquidMarkdown.Proofs.Template.Lexeme
import Mathlib.Data.List.Chain
import Mathlib.Data.List.TakeWhile

/-!
# The tokens between delimiters

The scan of the inside of a tag, said without the scanner's place.  This file defines:

* `HoldsTagEnd` — the end of a tag occurs in a text;
* `Inside` — a text that can stand before the end of a tag;
* `Stays` — the tag does not end here;
* `Lexes` — a text begins with the inside of a tag, which has tokens of the given kinds up to the
  end of the tag, and goes on with another text.

The scan gives the tokens of `Lexes` (`scan_of_lexes`), and finds an end of a tag only so
(`exists_lexes_of_mem_scan`).  Where the inside ends with a blank and holds no end of a tag,
anything may stand behind the tag (`Lexes.append`), and blanks behind a first word may be left out
(`Lexes.respace`).
-/

namespace LiquidMarkdown

namespace Text

/-- Trimming the start does not go beyond a character outside the class. -/
theorem dropStart_append_of_head {p : Char → Bool} {v : Text} (hv : ∀ c ∈ v.head?, p c = false)
    (u : Text) : dropStart p (u ++ v) = dropStart p u ++ v := by
  rw [dropStart, List.dropWhile_append]
  split
  · next h =>
      rw [dropStart, List.isEmpty_iff.1 h, ← dropStart, dropStart_eq_self hv, List.nil_append]
  · rfl

/-- What is left of a text begins outside the class. -/
theorem head?_dropStart {p : Char → Bool} {t : Text} :
    ∀ c ∈ (dropStart p t).head?, p c = false := by
  intro c hc
  induction t with
  | nil => cases hc
  | cons x t ih =>
      by_cases hx : p x = true
      · exact ih (by simpa [dropStart, hx] using hc)
      · have hc' : x = c := by simpa [dropStart, hx] using hc
        exact hc' ▸ Bool.eq_false_iff.2 hx

theorem takeWhile_append_dropStart (p : Char → Bool) (t : Text) :
    t.takeWhile p ++ dropStart p t = t :=
  List.takeWhile_append_dropWhile

theorem dropEnd_append_of_forall {p : Char → Bool} {v : Text} (hv : ∀ c ∈ v, p c = true)
    (u : Text) :
    dropEnd p (u ++ v) = dropEnd p u := by
  rw [dropEnd, List.reverse_append, List.dropWhile_append_of_pos, ← dropEnd]
  exact fun c hc => hv c (List.mem_reverse.1 hc)

theorem dropEnd_eq_self {p : Char → Bool} {t : Text} (ht : ∀ c ∈ t.getLast?, p c = false) :
    dropEnd p t = t := by
  obtain ⟨v, hv, heq⟩ := dropEnd_append ht []
  rw [List.append_nil, List.prefix_nil.1 hv, List.append_nil] at heq
  exact heq

/-- A text without blanks around it does not end with one. -/
theorem getLast?_of_trim {t : Text} (h : trim t = t) : ∀ c ∈ t.getLast?, isBlank c = false := by
  intro c hc
  rw [← h, trim, trimAll, dropEnd, List.getLast?_reverse] at hc
  exact head?_dropStart c hc

/-- Neither does it begin with one. -/
theorem head?_of_trim {t : Text} (h : trim t = t) : ∀ c ∈ t.head?, isBlank c = false := by
  intro c hc
  refine head?_dropStart (t := t) c ?_
  rw [← dropEnd_append_takeEnd isBlank (dropStart isBlank t), ← trimAll, ← trim, h]
  exact List.mem_head?_append_of_mem_head? hc

theorem trim_append_left {u : Text} (hu : ∀ c ∈ u, isBlank c = true) (v : Text) :
    trim (u ++ v) = trim v := by
  rw [trim, trimAll, dropStart, List.dropWhile_append_of_pos hu]
  rfl

theorem trim_append_right {v : Text} (hv : ∀ c ∈ v, isBlank c = true) (u : Text) :
    trim (u ++ v) = trim u := by
  rw [trim, trimAll, trim, trimAll, dropStart, List.dropWhile_append]
  split
  · next h =>
      rw [List.dropWhile_eq_nil_iff.2 hv, dropStart, List.isEmpty_iff.1 h]
  · exact dropEnd_append_of_forall hv _

theorem trim_spaced (t : Text) : trim (' ' :: (t ++ [' '])) = trim t := by
  have hspace : ∀ c ∈ ([' '] : Text), isBlank c = true := List.forall_mem_singleton.2 rfl
  rw [← List.singleton_append, trim_append_left hspace, trim_append_right hspace]

/-- A text that neither begins nor ends with a blank is trimmed. -/
theorem trim_eq_self {t : Text} (hhead : ∀ c ∈ t.head?, isBlank c = false)
    (hlast : ∀ c ∈ t.getLast?, isBlank c = false) : trim t = t := by
  rw [trim, trimAll, dropStart_eq_self hhead, dropEnd_eq_self hlast]

end Text

/-- No word character is a blank. -/
theorem Unicode.isBlank_of_isWord {c : Char} (h : isWord c = true) : Text.isBlank c = false := by
  refine Bool.eq_false_iff.2 fun hblank => ?_
  rw [isWord_of_isBlank hblank] at h
  cases h

namespace Template

/-! ## The end of a tag -/

/-- The end of a tag occurs in the text. -/
def HoldsTagEnd (t : Text) : Prop :=
  ['%', '}'] <:+: t

theorem holdsTagEnd_iff {t : Text} :
    HoldsTagEnd t ↔ ¬ t.IsChain fun a b => ¬ (a = '%' ∧ b = '}') := by
  rw [List.isChain_iff_forall_rel_of_append_cons_cons]
  constructor
  · rintro ⟨u, v, rfl⟩ h
    have heq : u ++ ['%', '}'] ++ v = u ++ '%' :: '}' :: v := by simp
    exact h heq ⟨rfl, rfl⟩
  · intro h
    by_contra hend
    refine h fun a b u v heq hab => hend ⟨u, v, ?_⟩
    obtain ⟨rfl, rfl⟩ := hab
    simp [heq]

instance : DecidablePred HoldsTagEnd := fun _ => decidable_of_iff _ holdsTagEnd_iff.symm

theorem holdsTagEnd_append {s t : Text} : HoldsTagEnd (s ++ t) ↔
    HoldsTagEnd s ∨ HoldsTagEnd t ∨ s.getLast? = some '%' ∧ t.head? = some '}' := by
  simp only [holdsTagEnd_iff, List.isChain_append, Option.mem_def]
  grind

/-- An end of a tag is a percent sign and a brace, perhaps behind a sign. -/
theorem eq_of_blockEnd? {t rest : Text} (h : Delimiter.blockEnd? t = some rest) :
    ∃ sign r, (sign = [] ∨ sign = ['+'] ∨ sign = ['-']) ∧ t = sign ++ '%' :: '}' :: r ∧
      rest <:+ r := by
  unfold Delimiter.blockEnd? at h
  split at h
  · cases h
    exact ⟨['+'], rest, by simp, rfl, List.suffix_rfl⟩
  · next r =>
      cases h
      exact ⟨['-'], r, by simp, rfl, List.dropWhile_suffix _⟩
  · cases h
    exact ⟨[], rest, by simp, rfl, List.suffix_rfl⟩
  · cases h

theorem takes_of_blockEnd? {t rest : Text} (h : Delimiter.blockEnd? t = some rest) :
    ∃ u, u ≠ [] ∧ t = u ++ rest := by
  obtain ⟨sign, r, -, rfl, u, rfl⟩ := eq_of_blockEnd? h
  exact ⟨sign ++ '%' :: '}' :: u, by simp, by simp⟩

/-- Neither does one begin with a word or a blank. -/
theorem blockEnd?_word {w z : Text} (hw : ∀ c ∈ w, Unicode.isWord c = true) :
    Delimiter.blockEnd? (w ++ ' ' :: z) = none := by
  refine Option.eq_none_iff_forall_ne_some.2 fun rest hrest => ?_
  obtain ⟨sign, r, hsign, heq, -⟩ := eq_of_blockEnd? hrest
  cases w with
  | nil => rcases hsign with rfl | rfl | rfl <;> cases (List.cons.inj heq).1
  | cons c w =>
      have hc := hw c List.mem_cons_self
      rcases hsign with rfl | rfl | rfl <;> cases (List.cons.inj heq).1 <;>
        exact absurd hc (by decide)

/-- A text that can stand before the end of a tag: no end of a tag occurs in it, and it ends with a
blank if it is not empty. -/
structure Inside (w : Text) : Prop where
  noTagEnd : ¬ HoldsTagEnd w
  last : ∀ x ∈ w.getLast?, x = ' '

namespace Inside

variable {u w z : Text}

theorem of_suffix (h : Inside w) (hu : u <:+ w) : Inside u := by
  refine ⟨fun hend => h.noTagEnd (hend.trans hu.isInfix), fun x hx => h.last x ?_⟩
  obtain ⟨v, rfl⟩ := hu
  exact List.mem_getLast?_append_of_mem_getLast? hx

/-- Before the end of a tag stands a text with a blank behind it, or nothing. -/
theorem exists_eq_concat (h : Inside w) (hne : w ≠ []) : ∃ v, w = v ++ [' '] := by
  have hlast := List.dropLast_append_getLast hne
  rw [h.last (w.getLast hne) (List.getLast?_eq_some_getLast hne)] at hlast
  exact ⟨_, hlast.symm⟩

/-- No end of a tag begins in such a text, whatever stands behind it. -/
theorem blockEnd?_append (h : Inside w) (hne : w ≠ []) :
    Delimiter.blockEnd? (w ++ z) = none := by
  refine Option.eq_none_iff_forall_ne_some.2 fun rest hrest => ?_
  obtain ⟨sign, r, hsign, heq, -⟩ := eq_of_blockEnd? hrest
  obtain ⟨v, rfl⟩ := h.exists_eq_concat hne
  have heq' : v ++ [' '] ++ z = (sign ++ ['%', '}']) ++ r := by simpa using heq
  rcases List.append_eq_append_iff.1 heq' with ⟨u, hu, -⟩ | ⟨u, hu, -⟩
  · -- The end of the tag has no blank, so the text is not a part of it.
    have hmem : ' ' ∈ sign ++ ['%', '}'] := by simp [hu]
    rcases hsign with rfl | rfl | rfl <;> simp at hmem
  · exact h.noTagEnd ⟨sign, u, by simpa using hu.symm⟩

end Inside

/-! ## The inside of a tag -/

/-- A lexeme before a blank ends before it, if no string literal goes beyond the blank. -/
theorem exists_lexemeAt_of_append {p : Bool} {brackets open_ : List Char} {v z u r : Text}
    {k : Token.Kind} (ht : v ++ ' ' :: z = u ++ r) (hu : u ≠ [])
    (hblank : ∀ x ∈ u.head?, Text.isBlank x = false)
    (hz : ∀ q ∈ v.head?, FilterArguments.isQuote q = true → q ∉ z)
    (hlexeme : lexemeAt p brackets (v ++ ' ' :: z) = (k, open_, r))
    (hk : Cursor.isFault k = false) :
    ∃ r', v = u ++ r' ∧ r = r' ++ ' ' :: z ∧ ∀ y, lexemeAt p brackets (v ++ ' ' :: y) =
      (k, open_, r' ++ ' ' :: y) := by
  have hne : v ≠ [] := by
    rintro rfl
    cases u with
    | nil => exact hu rfl
    | cons c u =>
        cases (List.cons.inj ht).1
        cases hblank ' ' rfl
  rcases hv : lexemeAt p brackets v with ⟨k', open', r'⟩
  -- A fault without the blank would be a fault with it, as there is no quote that could close a
  -- string literal.
  have hk' : Cursor.isFault k' = false := by
    refine Bool.eq_false_iff.2 fun hfault => ?_
    have h :=
      isFault_lexemeAt_append hne hz (congrArg (fun r => Cursor.isFault r.1) hv |>.trans hfault)
    rw [hlexeme, hk] at h
    cases h
  have hsame := lexemeAt_append hv hk'
  rw [hsame z] at hlexeme
  cases hlexeme
  obtain ⟨u', -, rfl⟩ := takes_lexemeAt hv hk'
  have hu' : u' = u := by
    rw [List.append_assoc] at ht
    exact List.append_cancel_right ht
  subst hu'
  exact ⟨r', rfl, rfl, hsame⟩

/-- The tag does not end here: there is no end of one, or a bracket is open. -/
def Stays (brackets : List Char) (t : Text) : Prop :=
  brackets = [] → Delimiter.blockEnd? t = none

/-- The text begins with the inside of a tag, which has tokens of the given kinds up to the end of
the tag, and goes on with the other text. -/
inductive Lexes : Bool → List Char → Text → List Token.Kind → Text → Prop
  | stop {p : Bool} {t rest : Text} :
      Delimiter.blockEnd? t = some rest → Lexes p [] t [.blockEnd] rest
  | blank {p : Bool} {brackets : List Char} {x : Char} {t rest : Text} {ks : List Token.Kind} :
      Stays brackets (x :: t) → Text.isBlank x = true →
      Lexes false brackets (Text.trimStart t) ks rest → Lexes p brackets (x :: t) ks rest
  | token {p : Bool} {brackets open_ : List Char} {t u r rest : Text} {k : Token.Kind}
      {ks : List Token.Kind} : Stays brackets t → t = u ++ r → u ≠ [] →
      (∀ x ∈ u.head?, Text.isBlank x = false) → lexemeAt p brackets t = (k, open_, r) →
      Cursor.isFault k = false → Lexes (u.getLast? = some '.') open_ r ks rest →
      Lexes p brackets t (k :: ks) rest

namespace Lexes

variable {p : Bool} {brackets : List Char} {t rest : Text} {ks : List Token.Kind}

/-- Only the last token is the end of the tag. -/
theorem eq_append_blockEnd (h : Lexes p brackets t ks rest) :
    ∃ ls, ks = ls ++ [.blockEnd] ∧ .blockEnd ∉ ls := by
  induction h with
  | stop => exact ⟨[], rfl, List.not_mem_nil⟩
  | blank _ _ _ ih => exact ih
  | @token p brackets open_ t u r rest k ks _ _ _ _ hlexeme hk _ ih =>
      obtain ⟨ls, rfl, hls⟩ := ih
      refine ⟨k :: ls, rfl, fun hmem => ?_⟩
      rcases List.mem_cons.1 hmem with heq | hmem
      · exact (lexical_of_lexemeAt hlexeme).ne_blockEnd heq.symm
      · exact hls hmem

theorem not_nil : ¬ Lexes p brackets [] ks rest := by
  intro h
  cases h with
  | stop h => cases h
  | token _ ht hu _ _ _ _ => exact hu (List.append_eq_nil_iff.1 ht.symm).1

/-- A brace alone does not end a tag. -/
theorem not_brace : ¬ Lexes p brackets ['}'] ks rest := by
  intro h
  cases h with
  | stop h => cases h
  | blank _ hx _ => cases hx
  | @token _ _ _ _ u r _ _ _ _ ht hu _ _ _ hrest =>
      have hr : r = [] := by
        cases u with
        | nil => exact absurd rfl hu
        | cons c u => exact (List.append_eq_nil_iff.1 (List.cons.inj ht).2.symm).2
      exact not_nil (hr ▸ hrest)

/-- The percent sign of the end of a tag is no token. -/
theorem not_token_of_tagEnd {p' : Bool} {open_ : List Char} {u r : Text}
    (ht : ['%', '}'] = u ++ r) (hu : u ≠ []) : ¬ Lexes p' open_ r ks rest := by
  intro h
  cases u with
  | nil => exact hu rfl
  | cons c u =>
      cases u with
      | nil =>
          obtain rfl := (List.cons.inj ht).2
          exact not_brace h
      | cons d u =>
          have hr : r = [] :=
            (List.append_eq_nil_iff.1 (List.cons.inj (List.cons.inj ht).2).2.symm).2
          exact not_nil (hr ▸ h)

/-- Behind the end of a tag anything may stand. -/
theorem append {w : Text} (h : Lexes p brackets (w ++ ['%', '}']) ks rest) (hw : Inside w) :
    rest = [] ∧ ∀ z, Lexes p brackets (w ++ '%' :: '}' :: z) ks z := by
  generalize ht : w ++ ['%', '}'] = t at h
  induction h generalizing w with
  | @stop p t rest hend =>
      subst ht
      have hnil : w = [] := by
        by_contra hne
        rw [hw.blockEnd?_append hne] at hend
        cases hend
      -- The inside of a tag does not hold its end, so nothing of it is left where the end is found.
      subst hnil
      cases hend
      exact ⟨rfl, fun z => stop rfl⟩
  | @blank p brackets x t rest ks hstays hx _ ih =>
      cases w with
      | nil =>
          cases (List.cons.inj ht).1
          cases hx
      | cons y w =>
          obtain ⟨rfl, rfl⟩ := List.cons.inj ht
          -- Passing over blanks stops in front of the end of the tag at the latest.
          have htrim (v : Text) : Text.trimStart (w ++ '%' :: v) = Text.trimStart w ++ '%' :: v :=
            Text.dropStart_append_of_head (fun c hc => by cases hc; rfl) w
          have hw' : Inside (Text.trimStart w) :=
            hw.of_suffix ((List.dropWhile_suffix _).trans (List.suffix_cons _ _))
          obtain ⟨hrest, hz⟩ := ih hw' (htrim _).symm
          refine ⟨hrest, fun z => blank ?_ hx ?_⟩
          · exact fun _ => hw.blockEnd?_append (List.cons_ne_nil _ _)
          · exact htrim _ ▸ hz z
  | @token p brackets open_ t u r rest k ks hstays ht' hu hblank hlexeme hk hrest ih =>
      subst ht
      by_cases hnil : w = []
      · subst hnil
        exact absurd hrest (not_token_of_tagEnd ht' hu)
      · -- A lexeme is the same with anything behind the blank that the inside ends with.
        obtain ⟨v, rfl⟩ := hw.exists_eq_concat hnil
        rw [List.append_assoc] at ht' hlexeme
        have hz : ∀ q ∈ v.head?, FilterArguments.isQuote q = true → q ∉ ['%', '}'] := by
          rintro q - hq hmem
          rcases List.mem_pair.1 hmem with rfl | rfl <;> cases hq
        obtain ⟨r', rfl, rfl, hlexeme'⟩ := exists_lexemeAt_of_append ht' hu hblank hz hlexeme hk
        have hw' : Inside (r' ++ [' ']) :=
          hw.of_suffix ((List.suffix_append u _).trans (List.append_assoc u _ _ ▸ List.suffix_rfl))
        obtain ⟨hrest, hbehind⟩ := ih hw' (List.append_assoc ..)
        refine ⟨hrest, fun z => ?_⟩
        have hbehind' :
            Lexes (u.getLast? = some '.') open_ (r' ++ ' ' :: '%' :: '}' :: z) ks z := by
          simpa using hbehind z
        refine token (fun _ => hw.blockEnd?_append hnil) ?_ hu hblank ?_ hk hbehind'
        · simp
        · simpa using hlexeme' ('%' :: '}' :: z)

/-- A blank at the start is passed over, with those behind it. -/
theorem behind_blank {x : Char} (hx : Text.isBlank x = true)
    (h : Lexes p brackets (x :: t) ks rest) : Lexes false brackets (Text.trimStart t) ks rest := by
  cases h with
  | stop hend =>
      obtain ⟨sign, r, hsign, heq, -⟩ := eq_of_blockEnd? hend
      rcases hsign with rfl | rfl | rfl <;> cases (List.cons.inj heq).1 <;> cases hx
  | blank _ _ h => exact h
  | @token _ _ _ _ u r _ _ _ _ ht hu hblank _ _ _ =>
      cases u with
      | nil => exact absurd rfl hu
      | cons c u =>
          have hc := hblank c rfl
          rw [← (List.cons.inj ht).1, hx] at hc
          cases hc

/-- A name before a blank is the first token. -/
theorem exists_cons_of_name {w z : Text} (hw : ∀ c ∈ w, Unicode.isWord c = true) (hne : w ≠ [])
    (hname : lexemeAt p brackets w = (.name w, brackets, []))
    (h : Lexes p brackets (w ++ ' ' :: z) ks rest) : ∃ ls, ks = .name w :: ls := by
  generalize ht : w ++ ' ' :: z = t at h
  cases h with
  | stop hend =>
      rw [← ht, blockEnd?_word hw] at hend
      cases hend
  | blank _ hx _ =>
      cases w with
      | nil => exact absurd rfl hne
      | cons c w =>
          have hc := Unicode.isBlank_of_isWord (hw c List.mem_cons_self)
          rw [(List.cons.inj ht).1, hx] at hc
          cases hc
  | @token _ _ _ _ _ _ _ _ ks _ _ _ _ hlexeme _ _ =>
      rw [← ht, lexemeAt_append hname rfl z] at hlexeme
      exact ⟨ks, congrArg (· :: ks) (Prod.mk.inj hlexeme).1.symm⟩

/-- Blanks behind a word that begins the text may be left out up to the first one. -/
theorem respace {w b z : Text} (hw : ∀ c ∈ w, Unicode.isWord c = true)
    (hb : ∀ c ∈ b, Text.isBlank c = true) (h : Lexes p brackets (w ++ ' ' :: (b ++ z)) ks rest) :
    Lexes p brackets (w ++ ' ' :: z) ks rest := by
  generalize ht : w ++ ' ' :: (b ++ z) = t at h
  -- The word is taken token by token, up to the blanks behind it, which are passed over at once.
  induction h generalizing w with
  | @stop p t rest hend =>
      subst ht
      rw [blockEnd?_word hw] at hend
      cases hend
  | @blank p brackets x t rest ks hstays hx hrest ih =>
      cases w with
      | nil =>
          obtain ⟨rfl, rfl⟩ := List.cons.inj ht
          refine blank (fun _ => rfl) hx ?_
          rwa [Text.trimStart, Text.dropStart, List.dropWhile_append_of_pos hb] at hrest
      | cons c w =>
          cases (List.cons.inj ht).1
          have hc := Unicode.isBlank_of_isWord (hw x List.mem_cons_self)
          rw [hx] at hc
          cases hc
  | @token p brackets open_ t u r rest k ks hstays ht' hu hblank hlexeme hk hrest ih =>
      subst ht
      have hquote : ∀ q ∈ w.head?, FilterArguments.isQuote q = true → q ∉ b ++ z := by
        intro q hq hquote
        have hword := hw q (List.mem_of_head? hq)
        simp only [FilterArguments.isQuote, Bool.or_eq_true, decide_eq_true_eq] at hquote
        rcases hquote with rfl | rfl <;> exact absurd hword (by decide)
      obtain ⟨r', rfl, rfl, hlexeme'⟩ := exists_lexemeAt_of_append ht' hu hblank hquote hlexeme hk
      have hbehind := ih (fun c hc => hw c (List.mem_append_right u hc)) rfl
      exact token (fun _ => blockEnd?_word hw) (List.append_assoc ..) hu hblank
        (hlexeme' z) hk hbehind

end Lexes

/-! ## Steps of the scan -/

/-- Behind a character that is taken, what is left may be any end of the text. -/
theorem taken_of_suffix {x : Char} {t rest : Text} (h : rest <:+ t) :
    ∃ u, u ≠ [] ∧ x :: t = u ++ rest := by
  obtain ⟨u, rfl⟩ := h
  exact ⟨x :: u, List.cons_ne_nil x u, rfl⟩

namespace Delimiter

theorem suffix_sign (t : Text) : (sign t).2 <:+ t := by
  unfold sign
  split
  · exact List.suffix_cons _ _
  · exact List.suffix_cons _ _
  · exact List.suffix_rfl

theorem suffix_of_word? {word t rest : Text} (h : word? word t = some rest) : rest <:+ t := by
  obtain ⟨u, hu, rfl⟩ := Option.map_eq_some_iff.1 h
  have htrim : Text.trimStart t = word ++ u := Text.dropPrefix?_eq_some.1 hu
  have hu' : u <:+ t := (htrim ▸ List.suffix_append word u).trans (List.dropWhile_suffix _)
  exact (List.dropWhile_suffix _).trans hu'

theorem suffix_of_rawBegin? {t rest : Text} (h : rawBegin? t = some rest) : rest <:+ t := by
  unfold rawBegin? at h
  split at h
  · next u hu =>
      cases h
      have hend : Text.trimStart u <:+ '-' :: '%' :: '}' :: u :=
        (List.dropWhile_suffix _).trans (List.suffix_append ['-', '%', '}'] u)
      exact hend.trans (suffix_of_word? hu)
  · next hu =>
      cases h
      exact (List.suffix_append ['%', '}'] _).trans (suffix_of_word? hu)
  · cases h

theorem takes_of_read? {t rest : Text} {d : Delimiter} {trims : Bool}
    (h : read? t = some (d, trims, rest)) : ∃ u, u ≠ [] ∧ t = u ++ rest := by
  have hsign {u : Text} {x y : Char} (hrest : (sign u).2 = rest) :
      ∃ v, v ≠ [] ∧ x :: y :: u = v ++ rest :=
    taken_of_suffix ((hrest ▸ suffix_sign u).trans (List.suffix_cons _ _))
  unfold read? at h
  split at h
  · obtain ⟨-, h⟩ := Prod.mk.inj (Option.some.inj h)
    exact hsign (congrArg Prod.snd h)
  · obtain ⟨-, h⟩ := Prod.mk.inj (Option.some.inj h)
    exact hsign (congrArg Prod.snd h)
  · next u =>
      dsimp only at h
      split at h
      · next hraw =>
          cases h
          exact taken_of_suffix (((suffix_of_rawBegin? hraw).trans (suffix_sign u)).trans
            (List.suffix_cons _ _))
      · obtain ⟨-, h⟩ := Prod.mk.inj (Option.some.inj h)
        exact hsign (congrArg Prod.snd h)
  · cases h

theorem takes_of_variableEnd? {t rest : Text} (h : variableEnd? t = some rest) :
    ∃ u, u ≠ [] ∧ t = u ++ rest := by
  unfold variableEnd? at h
  split at h
  · next u =>
      cases h
      exact taken_of_suffix ((List.dropWhile_suffix _).trans (List.suffix_append ['}', '}'] u))
  · cases h
    exact taken_of_suffix (List.suffix_cons _ _)
  · cases h

theorem takes_of_commentEnd? {t rest : Text} (h : commentEnd? t = some rest) :
    ∃ u, u ≠ [] ∧ t = u ++ rest := by
  unfold commentEnd? at h
  split at h
  · cases h
    exact taken_of_suffix (List.suffix_append ['#', '}'] _)
  · next u =>
      cases h
      exact taken_of_suffix ((List.dropWhile_suffix _).trans (List.suffix_append ['#', '}'] u))
  · cases h
    exact taken_of_suffix (List.suffix_cons _ _)
  · cases h

theorem takes_of_rawEnd? {t rest : Text} {trims : Bool} (h : rawEnd? t = some (trims, rest)) :
    ∃ u, u ≠ [] ∧ t = u ++ rest := by
  unfold rawEnd? at h
  split at h
  · next u =>
      obtain ⟨r, hr, heq⟩ := Option.map_eq_some_iff.1 h
      obtain ⟨v, hv, hend⟩ := Option.bind_eq_some_iff.1 hr
      obtain ⟨w, -, rfl⟩ := takes_of_blockEnd? hend
      obtain rfl : r = rest := congrArg Prod.snd heq
      have hr' : r <:+ u :=
        ((List.suffix_append w r).trans (suffix_of_word? hv)).trans (suffix_sign u)
      exact taken_of_suffix (hr'.trans (List.suffix_cons _ _))
  · cases h

end Delimiter

namespace Cursor

/-- The end of what a delimiter opened is taken, and its token is no fault. -/
theorem takes_of_end? {delimiter : Delimiter} {t rest : Text} {k : Token.Kind}
    (h : end? delimiter t = some (k, rest)) :
    (∃ u, u ≠ [] ∧ t = u ++ rest) ∧ isFault k = false := by
  unfold end? at h
  split at h
  · obtain ⟨r, hr, heq⟩ := Option.map_eq_some_iff.1 h
    cases heq
    exact ⟨Delimiter.takes_of_variableEnd? hr, rfl⟩
  · obtain ⟨r, hr, heq⟩ := Option.map_eq_some_iff.1 h
    cases heq
    exact ⟨takes_of_blockEnd? hr, rfl⟩

/-- A lexeme that is no fault depends on the text and on the character before it. -/
theorem lexeme_eq_iff {c : Cursor} {brackets open_ : List Char} {k : Token.Kind} {r : Text}
    (hk : isFault k = false) : c.lexeme brackets = (k, open_, r) ↔
      lexemeAt (c.previous = '.') brackets c.rest = (k, open_, r) := by
  rcases lexeme_eq_lexemeAt c brackets with h | ⟨hfault, hfault'⟩
  · rw [h]
  · constructor
    · intro h
      rw [h, hk] at hfault
      cases hfault
    · intro h
      rw [h, hk] at hfault'
      cases hfault'

theorem length_lt_of_append {c : Cursor} {u t : Text} (h : c.rest = u ++ t) (hu : u ≠ []) :
    t.length < c.rest.length := by
  have hpos : 0 < u.length := List.length_pos_iff.2 hu
  rw [h, List.length_append]
  omega

/-- What is taken behind the text up to a delimiter is taken from the whole. -/
theorem length_lt_of_breakAt {α : Type} {at? : Text → Option α} {c : Cursor} {before rest : Text}
    {a : α} (h : breakAt at? c.rest = some (before, a))
    (htakes : ∀ s, at? s = some a → ∃ u, u ≠ [] ∧ s = u ++ rest) : rest.length < c.rest.length := by
  obtain ⟨s, hs, ha⟩ := eq_of_breakAt h
  obtain ⟨u, hu, rfl⟩ := htakes s ha
  rw [← List.append_assoc] at hs
  exact length_lt_of_append hs (List.append_ne_nil_of_right_ne_nil before hu)

/-- The tokens of a step. -/
def Step.tokens : Step → List Token
  | .last ts => ts
  | .next ts _ _ => ts

/-- Every step that goes on takes something from the text. -/
theorem length_lt_of_step {mode mode' : Mode} {c : Cursor} {ts : List Token} {rest : Text}
    (h : step mode c = .next ts mode' rest) : rest.length < c.rest.length := by
  cases mode with
  | text =>
      simp only [step, textStep] at h
      split at h
      · cases h
      · next hbreak =>
          split at h <;> cases h <;>
            exact length_lt_of_breakAt hbreak fun _ => Delimiter.takes_of_read?
  | comment =>
      simp only [step, commentStep] at h
      split at h
      · next hbreak =>
          cases h
          exact length_lt_of_breakAt hbreak fun _ => Delimiter.takes_of_commentEnd?
      · split at h <;> cases h
  | raw =>
      simp only [step, rawStep] at h
      split at h
      · next hbreak =>
          cases h
          exact length_lt_of_breakAt hbreak fun _ => Delimiter.takes_of_rawEnd?
      · split at h <;> cases h
  | inside delimiter brackets =>
      simp only [step, insideStep] at h
      split at h
      · next hend =>
          cases h
          split at hend
          · obtain ⟨⟨u, hu, hrest⟩, -⟩ := takes_of_end? hend
            exact length_lt_of_append hrest hu
          · cases hend
      · split at h
        · cases h
        · next x xs hc =>
            split at h
            · cases h
              obtain ⟨u, hu, hrest⟩ := taken_of_suffix (x := x) (List.dropWhile_suffix Text.isBlank)
              exact length_lt_of_append (hc.trans hrest) hu
            · split at h
              · cases h
              · next hk =>
                  cases h
                  have hlexeme := (lexeme_eq_iff (Bool.eq_false_iff.2 hk)).1 rfl
                  obtain ⟨u, hu, hrest⟩ := takes_lexemeAt hlexeme (Bool.eq_false_iff.2 hk)
                  exact length_lt_of_append hrest hu

/-- So the scan goes on wherever its steps do. -/
theorem scan_eq (mode : Mode) (c : Cursor) : scan mode c = match step mode c with
    | .last ts => ts
    | .next ts mode' rest => ts ++ scan mode' (c.moveTo rest) := by
  rw [scan]
  cases hstep : step mode c with
  | last ts => rfl
  | next ts mode' rest => exact if_pos (length_lt_of_step hstep)

/-- What holds of a scan if it holds of what follows its first step holds of every scan. -/
theorem scan_induction {P : Mode → Cursor → Prop}
    (h : ∀ mode c, (∀ ts mode' rest, step mode c = .next ts mode' rest → P mode' (c.moveTo rest)) →
      P mode c) (mode : Mode) (c : Cursor) : P mode c := by
  induction hlen : c.rest.length using Nat.strongRecOn generalizing mode c with
  | ind n ih =>
      subst hlen
      exact h mode c fun ts mode' rest hstep =>
        ih rest.length (length_lt_of_step hstep) mode' (c.moveTo rest) rfl

/-- Every token of the scan is one of some step. -/
theorem exists_step_of_mem_scan {mode : Mode} {c : Cursor} {t : Token} (h : t ∈ scan mode c) :
    ∃ mode' d, t ∈ (step mode' d).tokens := by
  induction mode, c using scan_induction with
  | h mode c ih =>
      rw [scan_eq] at h
      cases hstep : step mode c with
      | last ts =>
          rw [hstep] at h
          exact ⟨mode, c, hstep ▸ h⟩
      | next ts mode' rest =>
          rw [hstep] at h
          rcases List.mem_append.1 h with h | h
          · exact ⟨mode, c, hstep ▸ h⟩
          · exact ih ts mode' rest hstep h

theorem kind_of_mem_dataToken {n : Nat} {u : Text} {t : Token} (h : t ∈ dataToken n u) :
    t.kind = .data u := by
  unfold dataToken at h
  split at h
  · cases h
  · rw [List.mem_singleton.1 h]

/-- No token of a step stands for a stop of the grammar. -/
theorem ne_stalled_of_mem_step {mode : Mode} {c : Cursor} {t : Token}
    (h : t ∈ (step mode c).tokens) : t.kind ≠ .fault .stalled := by
  have hdata {n : Nat} {u : Text} (h : t ∈ dataToken n u) : t.kind ≠ .fault .stalled := by
    simp [kind_of_mem_dataToken h]
  have hone {n : Nat} {k : Token.Kind} (h : t ∈ [Token.mk n k]) (hk : k ≠ .fault .stalled) :
      t.kind ≠ .fault .stalled := by
    rwa [List.mem_singleton.1 h]
  cases mode with
  | text =>
      simp only [step, textStep] at h
      split at h
      · exact hdata h
      · split at h
        · exact hdata h
        · exact hdata h
        · exact (List.mem_append.1 h).elim hdata fun h => hone h (by simp)
        · exact (List.mem_append.1 h).elim hdata fun h => hone h (by simp)
  | comment =>
      simp only [step, commentStep] at h
      split at h
      · cases h
      · split at h
        · cases h
        · exact hone h (by simp)
  | raw =>
      simp only [step, rawStep] at h
      split at h
      · exact hdata h
      · split at h
        · cases h
        · exact hone h (by simp)
  | inside delimiter brackets =>
      simp only [step, insideStep] at h
      split at h
      · next hend =>
          split at hend
          · refine hone h fun hk => ?_
            cases hk ▸ (takes_of_end? hend).2
          · cases hend
      · split at h
        · cases h
        · split at h
          · cases h
          · split at h
            · exact hone h (lexical_lexeme c brackets).ne_stalled
            · exact hone h (lexical_lexeme c brackets).ne_stalled

end Cursor

/-! ## The scan -/

namespace Cursor

theorem scan_next {mode mode' : Mode} {c : Cursor} {ts : List Token} {rest : Text}
    (h : step mode c = .next ts mode' rest) : scan mode c = ts ++ scan mode' (c.moveTo rest) := by
  rw [scan_eq, h]

theorem scan_inside {brackets : List Char} {mode : Mode} {c : Cursor} {ts : List Token}
    {rest : Text}
    (h : insideStep .block brackets c = .next ts mode rest) :
    scan (.inside .block brackets) c = ts ++ scan mode (c.moveTo rest) :=
  scan_next h

theorem scan_inside_last {brackets : List Char} {c : Cursor} {ts : List Token}
    (h : insideStep .block brackets c = .last ts) : scan (.inside .block brackets) c = ts := by
  rw [scan_eq, step, h]

theorem moveTo_eq {c : Cursor} {u t : Text} (h : c.rest = u ++ t) :
    c.moveTo t = ⟨c.line + u.count '\n', c.offset + u.length, u.getLastD c.previous, t⟩ := by
  have hpassed : c.rest.take (c.rest.length - t.length) = u := by
    rw [h, List.length_append, Nat.add_sub_cancel]
    exact List.take_left
  rw [moveTo, hpassed]

/-- The character before the place is the last one that was passed. -/
theorem getLast?_passed {c : Cursor} {u t : Text} (h : c.rest = u ++ t) (hu : u ≠ []) :
    u.getLast? = some (c.moveTo t).previous := by
  rw [moveTo_eq h, List.getLast?_eq_some_getLast hu]
  change _ = some (u.getLastD c.previous)
  rw [List.getLastD_eq_getLast?, List.getLast?_eq_some_getLast hu]
  rfl

theorem decide_previous {c : Cursor} {u t : Text} (h : c.rest = u ++ t) (hu : u ≠ []) :
    decide ((c.moveTo t).previous = '.') = decide (u.getLast? = some '.') := by
  simp [getLast?_passed h hu]

theorem previous_of_blanks {c : Cursor} {x : Char} {t : Text} (hc : c.rest = x :: t)
    (hx : Text.isBlank x = true) : (c.moveTo (Text.trimStart t)).previous ≠ '.' := by
  have hu : x :: t = (x :: t.takeWhile Text.isBlank) ++ Text.trimStart t := by
    rw [List.cons_append, Text.takeWhile_append_dropStart]
  have hprevious := getLast?_passed (hc.trans hu) (List.cons_ne_nil _ _)
  intro hlast
  rcases List.mem_cons.1 (List.mem_of_getLast? (hlast ▸ hprevious)) with rfl | hmem
  · cases hx
  · cases List.mem_takeWhile_imp hmem

/-- Passing a text without a line feed does not change the line. -/
theorem line_moveTo {c : Cursor} {u t : Text} (h : c.rest = u ++ t) (hu : '\n' ∉ u) :
    (c.moveTo t).line = c.line := by
  rw [moveTo_eq h, List.count_eq_zero.2 hu]
  rfl

/-- The inside of a tag at its end. -/
theorem insideStep_stop {c : Cursor} {rest : Text} (h : Delimiter.blockEnd? c.rest = some rest) :
    insideStep .block [] c = .next [⟨c.line, .blockEnd⟩] .text rest := by
  simp [insideStep, end?, h]

/-- The inside of a tag at the end of the text. -/
theorem insideStep_nil {c : Cursor} {brackets : List Char} (hc : c.rest = []) :
    insideStep .block brackets c = .last [] := by
  have hend : (if brackets = [] then end? .block c.rest else none) = none := by
    rw [hc]
    split <;> rfl
  rw [insideStep, hend, hc]

/-- The inside of a tag before its end: blanks or a lexeme. -/
theorem insideStep_cons {c : Cursor} {brackets : List Char} {x : Char} {t : Text}
    (hc : c.rest = x :: t) (h : Stays brackets c.rest) : insideStep .block brackets c =
      if Text.isBlank x then .next [] (.inside .block brackets) (Text.trimStart t)
      else if isFault (c.lexeme brackets).1 then .last [⟨c.line, (c.lexeme brackets).1⟩]
      else .next [⟨c.line, (c.lexeme brackets).1⟩] (.inside .block (c.lexeme brackets).2.1)
        (c.lexeme brackets).2.2 := by
  have hend : (if brackets = [] then end? .block c.rest else none) = none := by
    split
    · next hb =>
        simp [end?, h hb]
    · rfl
  rw [insideStep, hend, hc]

end Cursor

/-- The scan gives the tokens of the inside, and goes on behind the tag. -/
theorem scan_of_lexes {p : Bool} {brackets : List Char} {t rest : Text} {ks : List Token.Kind}
    (h : Lexes p brackets t ks rest) (hline : '\n' ∉ t) {c : Cursor} (hc : c.rest = t)
    (hp : decide (c.previous = '.') = p) : ∃ d : Cursor, d.rest = rest ∧ d.line = c.line ∧
      c.scan (.inside .block brackets) = ks.map (Token.mk c.line) ++ d.scan .text := by
  -- The scan makes one step for each part of the inside: its end, a run of blanks, or a token.
  induction h generalizing c with
  | @stop p t rest hend =>
      subst hc
      obtain ⟨u, -, hrest⟩ := takes_of_blockEnd? hend
      have hl : (c.moveTo rest).line = c.line :=
        Cursor.line_moveTo hrest fun hmem => hline (hrest ▸ List.mem_append_left rest hmem)
      exact ⟨c.moveTo rest, rfl, hl,
        Cursor.scan_inside (Cursor.insideStep_stop hend)⟩
  | @blank p brackets x t rest ks hstays hx _ ih =>
      have hu : x :: t = (x :: t.takeWhile Text.isBlank) ++ Text.trimStart t := by
        rw [List.cons_append, Text.takeWhile_append_dropStart]
      rw [hu, List.mem_append, not_or] at hline
      have hl := Cursor.line_moveTo (hc.trans hu) hline.1
      obtain ⟨d, hd, hdline, hscan⟩ := ih hline.2 (c := c.moveTo (Text.trimStart t)) rfl
        (decide_eq_false (Cursor.previous_of_blanks hc hx))
      refine ⟨d, hd, hdline.trans hl, ?_⟩
      have hstep := Cursor.insideStep_cons hc (hc ▸ hstays)
      rw [if_pos hx] at hstep
      rw [Cursor.scan_inside hstep, hscan, hl]
      rfl
  | @token p brackets open_ t u r rest k ks hstays ht hu hblank hlexeme hk _ ih =>
      rw [ht, List.mem_append, not_or] at hline
      have hl := Cursor.line_moveTo (hc.trans ht) hline.1
      obtain ⟨d, hd, hdline, hscan⟩ := ih hline.2 (c := c.moveTo r) rfl
        (Cursor.decide_previous (hc.trans ht) hu)
      have hsame : c.lexeme brackets = (k, open_, r) :=
        (Cursor.lexeme_eq_iff hk).2 (by rw [hp, hc, hlexeme])
      refine ⟨d, hd, hdline.trans hl, ?_⟩
      cases u with
      | nil => exact absurd rfl hu
      | cons x u =>
          have hstep := Cursor.insideStep_cons (hc.trans ht) (hc ▸ hstays)
          rw [hblank x rfl, hsame, hk] at hstep
          rw [Cursor.scan_inside hstep, hscan, hl]
          rfl

/-- A token that is put before the inside of a tag. -/
theorem Lexes.of_lexeme {c : Cursor} {brackets open_ : List Char} {x : Char} {t r rest : Text}
    {k : Token.Kind} {ks : List Token.Kind} (hc : c.rest = x :: t) (hstays : Stays brackets c.rest)
    (hx : Text.isBlank x = false) (hlexeme : c.lexeme brackets = (k, open_, r))
    (hk : Cursor.isFault k = false) (h : Lexes ((c.moveTo r).previous = '.') open_ r ks rest) :
    Lexes (c.previous = '.') brackets c.rest (k :: ks) rest := by
  have hat := (Cursor.lexeme_eq_iff hk).1 hlexeme
  obtain ⟨u, hu, hrest⟩ := takes_lexemeAt hat hk
  rw [Cursor.decide_previous hrest hu] at h
  refine .token hstays hrest hu (fun y hy => ?_) hat hk h
  have hhead : c.rest.head? = some y := by rw [hrest, List.head?_append_of_ne_nil u hu, hy]
  rw [hc] at hhead
  cases hhead
  exact hx

/-- Where the scan of the inside finds the end of a tag, the text begins with the inside of a tag.
-/
theorem exists_lexes_of_mem_scan {brackets : List Char} {c : Cursor} {n : Nat}
    (h : ⟨n, .blockEnd⟩ ∈ c.scan (.inside .block brackets)) :
    ∃ ks rest, Lexes (c.previous = '.') brackets c.rest ks rest := by
  generalize hmode : Cursor.Mode.inside .block brackets = mode at h
  induction mode, c using Cursor.scan_induction generalizing brackets with
  | h mode c ih =>
      subst hmode
      by_cases hend : brackets = [] ∧ ∃ rest, Delimiter.blockEnd? c.rest = some rest
      · obtain ⟨rfl, rest, hrest⟩ := hend
        exact ⟨_, rest, .stop hrest⟩
      have hstays : Stays brackets c.rest := fun hb =>
        Option.eq_none_iff_forall_ne_some.2 fun rest hrest => hend ⟨hb, rest, hrest⟩
      cases hc : c.rest with
      | nil =>
          rw [Cursor.scan_inside_last (Cursor.insideStep_nil hc)] at h
          cases h
      | cons x t =>
          have hstep := Cursor.insideStep_cons hc hstays
          by_cases hx : Text.isBlank x = true
          · rw [if_pos hx] at hstep
            rw [Cursor.scan_inside hstep, List.nil_append] at h
            obtain ⟨ks, rest, hlexes⟩ := ih _ _ _ hstep rfl h
            rw [decide_eq_false (Cursor.previous_of_blanks hc hx)] at hlexes
            exact ⟨ks, rest, .blank (hc ▸ hstays) hx hlexes⟩
          · rw [if_neg hx] at hstep
            rcases hlexeme : c.lexeme brackets with ⟨k, open_, r⟩
            rw [hlexeme] at hstep
            by_cases hk : Cursor.isFault k = true
            · rw [if_pos hk] at hstep
              -- Behind a fault nothing is scanned any more, and the end of a tag is no fault.
              rw [Cursor.scan_inside_last hstep] at h
              cases List.mem_singleton.1 h
              cases hk
            · have hk' : Cursor.isFault k = false := Bool.eq_false_iff.2 hk
              have hlexical := lexical_of_lexemeAt ((Cursor.lexeme_eq_iff hk').1 hlexeme)
              rw [if_neg hk] at hstep
              rw [Cursor.scan_inside hstep, List.mem_append, List.mem_singleton] at h
              have hmem : ⟨n, .blockEnd⟩ ∈ (c.moveTo r).scan (.inside .block open_) :=
                h.resolve_left fun heq => hlexical.ne_blockEnd (Token.mk.inj heq).2.symm
              obtain ⟨ks, rest, hlexes⟩ := ih _ _ _ hstep rfl hmem
              have hx' : Text.isBlank x = false := Bool.eq_false_iff.2 hx
              exact ⟨k :: ks, rest, hc ▸ .of_lexeme hc hstays hx' hlexeme hk' hlexes⟩

end Template
end LiquidMarkdown
