import LiquidMarkdown.Markdown.Locate
import LiquidMarkdown.Proofs.Source.Tracing

/-!
# What is located is there

A text that is found in a source, in one piece or line by line, is traced by its offset map.  This
file defines:

* `LinesAt` — the segments of some lines are where the lines stand in the source;
* `linesAt_of_locateLines?` — the search for lines gives such segments;
* `LinesAt.finds`, `LinesAt.breaks` — they lead from the parts of the lines to the source;
* `cases_of_locate?`, `traces_of_locate?` — a text that is located is traced.
-/

namespace LiquidMarkdown
namespace Markdown

variable {source line t : Text} {lines : List Text} {segments : List (Int × Int)}
  {limit index start cursor place place' last : Nat}

/-- What is found within a limit stands in the source. -/
theorem slice_of_findWithin? (h : findWithin? source limit t cursor = some start) :
    source.slice start (start + t.length) = t :=
  Text.slice_of_slice_take (Text.slice_of_findFrom? h).1

/-- What is found stands behind the cursor and before the end of the source. -/
theorem le_of_findWithin? (h : findWithin? source limit t cursor = some start) :
    cursor ≤ start ∧ start + t.length ≤ source.length := by
  have hstop := Text.le_length_of_findFrom? h
  rw [List.length_take] at hstop
  exact ⟨(Text.slice_of_findFrom? h).2, by omega⟩

/-! ## Lines -/

theorem length_dropQuotes_le (t : Text) : (dropQuotes t).length ≤ t.length := by
  fun_induction dropQuotes t with
  | case1 c t _ ih | case2 c t _ ih =>
      simp only [List.length_cons] at ih ⊢
      omega
  | case3 t =>
      rw [List.length_cons]
      omega
  | case4 t => exact Nat.le_refl _

theorem length_quotePrefix_le (t : Text) : (quotePrefix t).length ≤ t.length := by
  have hindent (u : Text) : (u.dropWhile isIndent).length ≤ u.length :=
    (List.dropWhile_sublist _).length_le
  calc
    (quotePrefix t).length ≤ (dropQuotes (t.dropWhile isIndent)).length := hindent _
    _ ≤ (t.dropWhile isIndent).length := length_dropQuotes_le _
    _ ≤ t.length := hindent t

/-- The text of the next line starts behind the line feed before it. -/
theorem lt_of_nextLine? (h : nextLine? source place = some start) :
    place < start ∧ start ≤ source.length := by
  unfold nextLine? at h
  split at h
  · next rest hrest =>
      cases h
      have hquote := length_quotePrefix_le rest
      have hsub : ((source.drop place).dropWhile isIndent).length ≤ (source.drop place).length :=
        (List.dropWhile_sublist _).length_le
      rw [hrest, List.length_cons, List.length_drop] at hsub
      omega
  · cases h

/-- The segments lead from the lines, which follow each other from a local index on, to where they
stand in the source: the first of them no earlier than `place`, each of the others behind the line
feed after the one before it, and all of them before `last`. -/
inductive LinesAt (source : Text) : Nat → Nat → List Text → List (Int × Int) → Nat → Prop where
  | nil {index place : Nat} : LinesAt source index place [] [] place
  | cons {index place start last : Nat} {line : Text} {lines : List Text}
      {segments : List (Int × Int)} (hstart : place ≤ start)
      (hstop : start + line.length ≤ source.length)
      (h : source.slice start (start + line.length) = line)
      (rest : LinesAt source (index + line.length + 1) (start + line.length + 1) lines segments
        last) :
      LinesAt source index place (line :: lines) (((index : Int), (start : Int)) :: segments) last

theorem linesAt_of_locateLines?
    (h : locateLines? source limit index place lines = some (segments, place')) :
    LinesAt source index (place + 1) lines segments (place' + 1) := by
  -- Each line is looked for from the end of the one before it.
  induction lines generalizing index place place' segments with
  | nil =>
      cases h
      exact .nil
  | cons line lines ih =>
      rw [locateLines?] at h
      simp only [Option.bind_eq_bind, Option.bind_eq_some_iff] at h
      rcases h with ⟨start, hnext, h⟩
      split at h
      · cases h
      · next hc =>
          simp only [Option.pure_def, Option.bind_eq_some_iff, Option.some.injEq,
            Prod.mk.injEq, Prod.exists] at h
          rcases h with ⟨segments, _, hrest, rfl, rfl⟩
          have hstart : Text.startsWith line (source.drop start) = true := by
            simp only [Bool.or_eq_true, Bool.not_eq_true', not_or] at hc
            simpa using hc.2
          rcases Option.isSome_iff_exists.1 hstart with ⟨r, hr⟩
          have hdrop := Text.dropPrefix?_eq_some.1 hr
          have hlt := lt_of_nextLine? hnext
          have hlen := congrArg List.length hdrop
          rw [List.length_drop, List.length_append] at hlen
          refine .cons hlt.1 (by omega) ?_ (ih hrest)
          rw [Text.slice, ← List.take_drop, hdrop, List.take_left]

namespace LinesAt

theorem le_of_mem (h : LinesAt source index place lines segments last) :
    ∀ s ∈ segments, (index : Int) ≤ s.1 := by
  induction h with
  | nil => exact fun _ h => absurd h List.not_mem_nil
  | cons _ _ _ _ ih =>
      intro s hs
      rcases List.mem_cons.1 hs with rfl | hs
      · exact Int.le_refl _
      · have := ih s hs
        omega

theorem ascending (h : LinesAt source index place lines segments last) :
    (⟨segments⟩ : OffsetMap).Ascending := by
  induction h with
  | nil => exact List.Pairwise.nil
  | cons _ _ _ rest ih =>
      refine List.pairwise_cons.2 ⟨?_, ih⟩
      intro s hs
      have := rest.le_of_mem s hs
      simp only
      omega

/-- Behind every line feed there is a segment. -/
theorem breaks (h : LinesAt source index place lines segments last)
    (hlines : ∀ line ∈ lines, '\n' ∉ line)
    {i : Nat} (hi : (Text.joinWith ['\n'] lines)[i]? = some '\n') :
    ∃ s ∈ segments, s.1 = (index : Int) + i + 1 := by
  induction h generalizing i with
  | nil => simp [Text.joinWith] at hi
  | @cons index place start last line lines segments _ _ _ rest ih =>
      have hline := hlines _ List.mem_cons_self
      have hrest := fun l hl => hlines l (List.mem_cons_of_mem _ hl)
      cases rest with
      | nil =>
          simp only [Text.joinWith, List.intercalate_singleton] at hi
          exact absurd (List.mem_of_getElem? hi) hline
      | cons _ _ _ _ =>
          rw [Text.joinWith_cons_cons] at hi
          rcases Nat.lt_trichotomy i line.length with hlt | rfl | hlt
          · rw [List.getElem?_append_left hlt] at hi
            exact absurd (List.mem_of_getElem? hi) hline
          · exact ⟨_, List.mem_cons_of_mem _ List.mem_cons_self, by simp only; omega⟩
          · obtain ⟨j, rfl⟩ : ∃ j, i = line.length + (j + 1) := ⟨i - line.length - 1, by omega⟩
            rw [List.getElem?_append_right (by omega), Nat.add_sub_cancel_left,
              List.getElem?_cons_succ] at hi
            rcases ih hrest hi with ⟨s, hs, hs1⟩
            exact ⟨s, List.mem_cons_of_mem _ hs, by omega⟩

/-- A part of one of the lines belongs to the segment of the line, and stands in the source where
that leads. -/
theorem finds (h : LinesAt source index place lines segments last) {i n : Nat}
    (hlt : i + n < (Text.joinWith ['\n'] lines).length)
    (hpart : '\n' ∉ (Text.joinWith ['\n'] lines).slice i (i + n + 1)) :
    ∃ pre s post, ∃ a : Nat, segments = pre ++ s :: post ∧ s.1 ≤ ((index + i : Nat) : Int) ∧
      (∀ s' ∈ post, ((index + i + n : Nat) : Int) < s'.1) ∧
      s.2 + ((index + i : Nat) : Int) - s.1 = a ∧
      source.slice a (a + n + 1) = (Text.joinWith ['\n'] lines).slice i (i + n + 1) := by
  induction h generalizing i with
  | nil => simp [Text.joinWith] at hlt
  | @cons index place start last first lines segments _ _ h rest ih =>
      by_cases hin : i + n < first.length
      · -- The part lies in the first line.
        refine ⟨[], _, segments, start + i, rfl, by simp only; omega, ?_, ?_, ?_⟩
        · intro s' hs'
          have := rest.le_of_mem s' hs'
          omega
        · simp only
          omega
        · have hfirst (k : Nat) (hk : k < first.length) :
              (Text.joinWith ['\n'] (first :: lines))[k]? = first[k]? := by
            cases lines with
            | nil => simp [Text.joinWith]
            | cons next lines => rw [Text.joinWith_cons_cons, List.getElem?_append_left hk]
          calc
            source.slice (start + i) (start + i + n + 1)
                = (source.slice start (start + first.length)).slice i (i + (n + 1)) := by
                  rw [Text.slice_slice source (by omega)]
                  simp only [Nat.add_assoc]
            _ = first.slice i (i + (n + 1)) := by rw [h]
            _ = (Text.joinWith ['\n'] (first :: lines)).slice i (i + (n + 1)) :=
                  Text.slice_eq_slice fun k hk => (hfirst _ (by omega)).symm
      · cases lines with
        | nil => simp [Text.joinWith] at hlt; omega
        | cons next lines =>
            rw [Text.joinWith_cons_cons] at hlt hpart ⊢
            have hbehind : first.length < i := by
              -- Otherwise the line feed behind the first line is in the part.
              refine Nat.not_le.1 fun hle => hpart (Text.mem_slice.2 ⟨first.length, hle, ?_, ?_⟩)
              · omega
              · rw [List.getElem?_append_right (Nat.le_refl _), Nat.sub_self]
                rfl
            obtain ⟨j, rfl⟩ : ∃ j, i = first.length + (j + 1) := ⟨i - first.length - 1, by omega⟩
            have hshift : (first ++ '\n' :: Text.joinWith ['\n'] (next :: lines)).slice
                (first.length + (j + 1)) (first.length + (j + 1) + (n + 1)) =
                  (Text.joinWith ['\n'] (next :: lines)).slice j (j + (n + 1)) := by
              apply Text.slice_eq_slice
              intro k _
              have he : first.length + (j + 1) + k - first.length = j + k + 1 := by omega
              rw [List.getElem?_append_right (by omega), he, List.getElem?_cons_succ]
            rw [Nat.add_assoc, hshift] at hpart
            rw [List.length_append, List.length_cons] at hlt
            rcases ih (i := j) (by omega) hpart with ⟨pre, s, post, a, he, hs, hpost, ha, hslice⟩
            refine ⟨_ :: pre, s, post, a, by rw [he]; rfl, by omega, ?_, by omega, ?_⟩
            · intro s' hs'
              have := hpost s' hs'
              omega
            · rw [hslice]
              exact hshift.symm

end LinesAt

/-! ## Texts -/

/-- The segments of the lines of a text, together, trace it. -/
theorem findsLines_of_linesAt (h : LinesAt source 0 place (Text.splitAt '\n' t) segments last) :
    (⟨segments⟩ : OffsetMap).FindsLines source t := by
  intro i n hlt hpart
  rw [← Text.joinWith_splitAt '\n' t] at hlt hpart
  rcases h.finds hlt hpart with ⟨pre, s, post, a, he, hs, hpost, ha, hslice⟩
  rw [Text.joinWith_splitAt] at hslice
  rw [Nat.zero_add] at hs ha
  refine ⟨a, ?_, ?_, hslice⟩
  · rw [OffsetMap.resolve?_of_split h.ascending he (.inl hs) fun s' hs' => ?_, ha]
    have := hpost s' hs'
    omega
  · rw [OffsetMap.resolve?_of_split h.ascending he (.inl (by omega)) fun s' hs' => ?_]
    · simp only [Option.some.injEq]
      omega
    · have := hpost s' hs'
      omega

/-- A text is located in one piece behind the cursor, or line by line. -/
theorem cases_of_locate? {m : OffsetMap} (h : locate? source limit t cursor = some (m, place)) :
    t ≠ [] ∧
      ((∃ start : Nat, m = .contiguous start ∧ place = start + t.length ∧
          findWithin? source limit t cursor = some start) ∨
        m.isContiguous = false ∧
          LinesAt source 0 cursor (Text.splitAt '\n' t) m.segments (place + 1)) := by
  unfold locate? at h
  split at h
  · cases h
  · next hne =>
      refine ⟨hne, ?_⟩
      split at h
      · next start hf =>
          cases h
          exact .inl ⟨start, rfl, rfl, hf⟩
      · next hnone =>
          split at h
          · cases h
          · next line lines hsplit =>
              simp only [Option.bind_eq_bind, Option.bind_eq_some_iff, Option.pure_def,
                Option.some.injEq, Prod.mk.injEq, Prod.exists] at h
              rcases h with ⟨start, hf, segments, place', hrest, rfl, rfl⟩
              refine .inr ⟨?_, ?_⟩
              · -- A text of one line would have been found in one piece.
                cases lines with
                | nil =>
                    have ht : line = t := by
                      have := Text.joinWith_splitAt '\n' t
                      rw [hsplit] at this
                      simpa [Text.joinWith] using this
                    rw [ht, hnone] at hf
                    cases hf
                | cons next lines =>
                    cases linesAt_of_locateLines? hrest with
                    | cons _ _ _ _ => simp [OffsetMap.isContiguous]
              · have hle := le_of_findWithin? hf
                have hlines := linesAt_of_locateLines? hrest
                rw [hsplit]
                refine .cons hle.1 hle.2 (slice_of_findWithin? hf) ?_
                rwa [Nat.zero_add]

/-- A text that is located is traced by its offset map. -/
theorem traces_of_locate? {m : OffsetMap}
    (h : locate? source limit t cursor = some (m, place)) : m.Traces source t := by
  rcases cases_of_locate? h with ⟨_, ⟨start, rfl, _, hf⟩ | ⟨hm, hlines⟩⟩
  · exact .piece start (slice_of_findWithin? hf)
  · refine .lines hm hlines.ascending (findsLines_of_linesAt hlines) ?_
    intro i hi
    rw [← Text.joinWith_splitAt '\n' t] at hi
    rcases hlines.breaks (fun _ hl => Text.notMem_of_mem_splitAt hl) hi with ⟨s, hs, hs1⟩
    exact ⟨s, hs, by omega⟩

end Markdown
end LiquidMarkdown
