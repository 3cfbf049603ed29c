import LiquidMarkdown.Proofs.Text.Slice
import LiquidMarkdown.Source.LineIndex
import Mathlib.Data.List.Induction

/-!
# Laws of the line index

* `startsAfterBreaks_append`, `length_startsAfterBreaks` — the line starts of two texts in a row,
  and their number;
* `getLast?_lineStarts` — the last line of a text starts behind its last line feed;
* `LineIndex.lineOf_eq` — the line of an offset is the number of line feeds before it;
* `LineIndex.point_eq` — the line, the column and the offset of a place;
* `LineIndex.Address` — the lines and columns that places have;
* `LineIndex.lineOffset_point`, `LineIndex.point_of_address` — addresses and offsets determine each
  other;
* `LineIndex.point_mono`, `LineIndex.point_addresses` — later offsets have later addresses.
-/

namespace LiquidMarkdown

/-! ## Line starts -/

theorem startsAfterBreaks_append (n : Nat) (a b : Text) :
    startsAfterBreaks n (a ++ b) = startsAfterBreaks n a ++ startsAfterBreaks (n + a.length) b := by
  induction a generalizing n with
  | nil => rfl
  | cons c a ih =>
      have hlen : n + 1 + a.length = n + (c :: a).length := by
        rw [List.length_cons]
        omega
      rw [List.cons_append, startsAfterBreaks, startsAfterBreaks, ih, hlen]
      split <;> rfl

theorem length_startsAfterBreaks (n : Nat) (t : Text) :
    (startsAfterBreaks n t).length = t.count '\n' := by
  induction t generalizing n with
  | nil => rfl
  | cons c t ih =>
      rw [startsAfterBreaks, List.count_cons]
      by_cases hc : c = '\n'
      · simp [hc, ih]
      · simp [hc, ih]

/-- The starts lie behind the beginning of the text, and not behind its end. -/
theorem mem_startsAfterBreaks {n s : Nat} {t : Text} (h : s ∈ startsAfterBreaks n t) :
    n < s ∧ s ≤ n + t.length := by
  induction t generalizing n with
  | nil => cases h
  | cons c t ih =>
      have htail (h : s ∈ startsAfterBreaks (n + 1) t) : n < s ∧ s ≤ n + (c :: t).length := by
        have := ih h
        rw [List.length_cons]
        omega
      rw [startsAfterBreaks] at h
      split at h
      · rcases List.mem_cons.1 h with rfl | h
        · rw [List.length_cons]
          omega
        · exact htail h
      · exact htail h

theorem lineStarts_concat (t : Text) (c : Char) :
    lineStarts (t ++ [c]) = if c = '\n' then lineStarts t ++ [t.length + 1] else lineStarts t := by
  rw [lineStarts, startsAfterBreaks_append, Nat.zero_add, startsAfterBreaks, startsAfterBreaks]
  split
  · rfl
  · rw [List.append_nil, lineStarts]

/-- The last line of a text starts behind its last line feed. -/
theorem getLast?_lineStarts (t : Text) :
    ∃ s, (lineStarts t).getLast? = some s ∧ s + t.lastLine.length = t.length := by
  -- A text grows at its end, where a line feed starts a line and any other character makes it
  -- longer.
  induction t using List.reverseRecOn with
  | nil => exact ⟨0, rfl, rfl⟩
  | append_singleton t c ih =>
      rcases ih with ⟨s, hs, hlen⟩
      rw [lineStarts_concat, Text.lastLine_concat, List.length_append, List.length_singleton]
      by_cases hc : c = '\n'
      · rw [if_pos hc, if_pos hc]
        exact ⟨t.length + 1, List.getLast?_concat, rfl⟩
      · rw [if_neg hc, if_neg hc, List.length_append, List.length_singleton]
        exact ⟨s, hs, by omega⟩

/-! ## Places -/

namespace LineIndex

variable {ix : LineIndex} {o : Nat}

/-- The line starts up to an offset are those of the text before it. -/
theorem exists_starts_eq (ix : LineIndex) (h : o ≤ ix.size) :
    ∃ after, ix.starts = lineStarts (ix.source.take o) ++ after ∧ ∀ s ∈ after, o < s := by
  refine ⟨startsAfterBreaks o (ix.source.drop o), ?_, fun s hs => (mem_startsAfterBreaks hs).1⟩
  have hlen : (ix.source.take o).length = o := by
    rw [List.length_take]
    exact Nat.min_eq_left h
  calc
    ix.starts = lineStarts (ix.source.take o ++ ix.source.drop o) := by
      rw [List.take_append_drop, ix.starts_eq]
    _ = lineStarts (ix.source.take o) ++ startsAfterBreaks o (ix.source.drop o) := by
      rw [lineStarts, startsAfterBreaks_append, hlen, Nat.zero_add]
      rfl

theorem length_lineStarts (t : Text) : (lineStarts t).length = t.count '\n' + 1 := by
  rw [lineStarts, List.length_cons, length_startsAfterBreaks]

theorem le_of_mem_lineStarts {t : Text} {s : Nat} (h : s ∈ lineStarts t) : s ≤ t.length := by
  rcases List.mem_cons.1 h with rfl | h
  · exact Nat.zero_le _
  · have := mem_startsAfterBreaks h
    omega

/-- The line behind the last line feed before an offset is one of the source. -/
theorem count_lt_length_starts (h : o ≤ ix.size) :
    (ix.source.take o).count '\n' < ix.starts.length := by
  rcases ix.exists_starts_eq h with ⟨after, hs, -⟩
  rw [hs, List.length_append, length_lineStarts]
  omega

/-- The lines that start at an offset or before it are as many as the line feeds before it, and the
first one. -/
theorem getD_starts_le_iff (h : o ≤ ix.size) {k : Nat} (hk : k < ix.starts.length) :
    ix.starts.getD k 0 ≤ o ↔ k ≤ (ix.source.take o).count '\n' := by
  rcases ix.exists_starts_eq h with ⟨after, hs, hafter⟩
  have hlen := length_lineStarts (ix.source.take o)
  rw [List.getD_eq_getElem?_getD, List.getElem?_eq_getElem hk, Option.getD_some]
  by_cases hle : k ≤ (ix.source.take o).count '\n'
  · have hmem : ix.starts[k] ∈ lineStarts (ix.source.take o) := by
      have hkl : k < (lineStarts (ix.source.take o)).length := by omega
      simp only [hs, List.getElem_append_left hkl]
      exact List.getElem_mem _
    have hstart := le_of_mem_lineStarts hmem
    rw [List.length_take] at hstart
    exact iff_of_true (by omega) hle
  · have hmem : ix.starts[k] ∈ after := by
      have hkl : (lineStarts (ix.source.take o)).length ≤ k := by omega
      simp only [hs, List.getElem_append_right hkl]
      exact List.getElem_mem _
    exact iff_of_false (Nat.not_le.2 (hafter _ hmem)) hle

/-- The line of an offset is the number of line feeds before it. -/
theorem lineOf_eq (h : o ≤ ix.size) : ix.lineOf o = (ix.source.take o).count '\n' := by
  have hlt := count_lt_length_starts h
  -- The search ends behind the starts that are not beyond the offset.
  rw [lineOf, bisect_eq (k := (ix.source.take o).count '\n' + 1) (Nat.zero_le _) hlt
    (fun k _ hk => decide_eq_false ?_) (fun k hk hl => decide_eq_true ?_)]
  · rfl
  · exact Nat.not_lt.2 ((getD_starts_le_iff h (by omega)).2 (by omega))
  · rw [← Nat.not_le, getD_starts_le_iff h hl]
    omega

/-- The line of an offset starts as many characters before it as stand behind the last line feed. -/
theorem lineStart_eq (h : o ≤ ix.size) :
    ix.starts.getD (ix.lineOf o) 0 + (Text.lastLine (ix.source.take o)).length = o := by
  rcases ix.exists_starts_eq h with ⟨after, hs, _⟩
  rcases getLast?_lineStarts (ix.source.take o) with ⟨s, hlast, hlen⟩
  have hlt : (ix.source.take o).count '\n' < (lineStarts (ix.source.take o)).length := by
    rw [length_lineStarts]
    exact Nat.lt_succ_self _
  have hget : ix.starts.getD (ix.lineOf o) 0 = s := by
    rw [List.getLast?_eq_getElem?, length_lineStarts, Nat.add_sub_cancel] at hlast
    rw [lineOf_eq h, List.getD_eq_getElem?_getD, hs, List.getElem?_append_left hlt, hlast,
      Option.getD_some]
  rw [hget, hlen, List.length_take]
  exact Nat.min_eq_left h

theorem clamp_le_size (ix : LineIndex) (offset : Int) : ix.clamp offset ≤ ix.size :=
  Nat.min_le_right _ _

/-- The line of a place counts the line feeds before it, its column the characters since the last of
them; both count from one. -/
theorem point_eq (ix : LineIndex) (offset : Int) :
    ix.point offset =
      ⟨(ix.source.take (ix.clamp offset)).count '\n' + 1,
        (Text.lastLine (ix.source.take (ix.clamp offset))).length + 1, ix.clamp offset⟩ := by
  have hle := ix.clamp_le_size offset
  have hstart := lineStart_eq hle
  have hcolumn :
      ((ix.clamp offset : Nat) : Int) - ix.starts.getD (ix.lineOf (ix.clamp offset)) 0 + 1
      = (Text.lastLine (ix.source.take (ix.clamp offset))).length + 1 := by
    omega
  simp only [point, lineOf_eq hle] at hcolumn ⊢
  rw [hcolumn]

theorem line_point (ix : LineIndex) (offset : Int) :
    (ix.point offset).line = (ix.source.take (ix.clamp offset)).count '\n' + 1 := by
  rw [point_eq]

theorem column_point (ix : LineIndex) (offset : Int) :
    (ix.point offset).column = (Text.lastLine (ix.source.take (ix.clamp offset))).length + 1 := by
  rw [point_eq]

theorem clamp_of_le (h : o ≤ ix.size) : ix.clamp (o : Int) = o := by
  rw [clamp, Int.toNat_natCast]
  exact Nat.min_eq_left h

/-! ## Addresses -/

/-- A line and a column that a character of the source has, or its end: both count from one, and the
column ends before the next line. -/
structure Address (ix : LineIndex) (line column : Int) : Prop where
  line_pos : 1 ≤ line
  line_le : line ≤ ix.starts.length
  column_pos : 1 ≤ column
  le_size : ix.lineOffset (line - 1) + column - 1 ≤ ix.size
  lt_next : line < ix.starts.length → ix.lineOffset (line - 1) + column - 1 < ix.lineOffset line

theorem lineOffset_natCast {k : Nat} (h : k < ix.starts.length) :
    ix.lineOffset (k : Int) = ix.starts.getD k 0 := by
  rw [lineOffset, if_neg (by omega), Int.toNat_natCast]

/-- A line that starts at an offset or before it, and whose next line starts behind, is its line. -/
theorem lineOf_eq_of_le {k : Nat} (h : o ≤ ix.size) (hk : k < ix.starts.length)
    (hle : ix.starts.getD k 0 ≤ o)
    (hnext : k + 1 < ix.starts.length → o < ix.starts.getD (k + 1) 0) :
    ix.lineOf o = k := by
  have hlt := count_lt_length_starts h
  have hbefore := (getD_starts_le_iff h hk).1 hle
  have hbehind : (ix.source.take o).count '\n' ≤ k := by
    refine Nat.not_lt.1 fun hc => ?_
    have hnext' := hnext (by omega)
    rw [← Nat.not_le, getD_starts_le_iff h (by omega)] at hnext'
    exact hnext' hc
  rw [lineOf_eq h]
  exact Nat.le_antisymm hbehind hbefore

/-- The address of a place leads back to its offset. -/
theorem lineOffset_point (ix : LineIndex) (offset : Int) :
    ix.lineOffset ((ix.point offset).line - 1) + (ix.point offset).column - 1 =
      ix.clamp offset := by
  have hlt : ix.lineOf (ix.clamp offset) < ix.starts.length := by
    rw [lineOf_eq (ix.clamp_le_size offset)]
    exact count_lt_length_starts (ix.clamp_le_size offset)
  have hline : (ix.point offset).line - 1 = ix.lineOf (ix.clamp offset) := by
    simp only [point]
    omega
  rw [hline, lineOffset_natCast hlt]
  simp only [point]
  omega

theorem address_point (ix : LineIndex) (offset : Int) :
    ix.Address (ix.point offset).line (ix.point offset).column := by
  have hle := ix.clamp_le_size offset
  have hlt := count_lt_length_starts hle
  have hback := ix.lineOffset_point offset
  have hline := ix.line_point offset
  have hcolumn := ix.column_point offset
  refine ⟨by omega, by omega, by omega, by omega, fun hnext => ?_⟩
  -- The next line is not among those that start at the offset or before it.
  have hk : (ix.source.take (ix.clamp offset)).count '\n' + 1 < ix.starts.length := by omega
  have hbehind := getD_starts_le_iff hle hk
  have hstart := lineOffset_natCast hk
  rw [Int.natCast_add, Int.natCast_one, ← hline] at hstart
  omega

/-- What stands at an address has this address. -/
theorem point_of_address {line column : Int} (h : ix.Address line column) :
    ix.point (ix.lineOffset (line - 1) + column - 1) =
      ⟨line, column, ix.lineOffset (line - 1) + column - 1⟩ := by
  have hpos := h.line_pos
  obtain ⟨k, rfl⟩ : ∃ k : Nat, line = (k + 1 : Nat) := ⟨(line - 1).toNat, by omega⟩
  have hk : k < ix.starts.length := by
    have := h.line_le
    omega
  -- Lines count from one, their starts from zero.
  have hcast : ((k + 1 : Nat) : Int) - 1 = (k : Nat) := by omega
  rw [hcast, lineOffset_natCast hk]
  have hcolumn := h.column_pos
  obtain ⟨o, ho⟩ : ∃ o : Nat, (o : Int) = ix.starts.getD k 0 + column - 1 :=
    ⟨(ix.starts.getD k 0 + column - 1).toNat, by omega⟩
  have hsize := h.le_size
  have hnext := h.lt_next
  rw [hcast, lineOffset_natCast hk, ← ho] at hsize hnext
  have hline : ix.lineOf o = k := by
    refine lineOf_eq_of_le (by omega) hk (by omega) fun hk' => ?_
    have := hnext (by omega)
    rw [lineOffset_natCast hk'] at this
    omega
  rw [← ho]
  simp only [point, clamp_of_le (by omega : o ≤ ix.size), hline, Point.mk.injEq]
  exact ⟨by omega, by omega, trivial⟩

/-- A later place is on a later line, or on the same line and not before. -/
theorem point_mono (ix : LineIndex) {a b : Int} (hab : a ≤ b) :
    (ix.point a).line < (ix.point b).line ∨
      (ix.point a).line = (ix.point b).line ∧ (ix.point a).column ≤ (ix.point b).column := by
  have hle : ix.clamp a ≤ ix.clamp b := by
    simp only [clamp]
    omega
  have hcount :
      (ix.source.take (ix.clamp a)).count '\n' ≤ (ix.source.take (ix.clamp b)).count '\n' :=
    (List.take_prefix_take_left hle).sublist.count_le '\n'
  have hback := ix.lineOffset_point a
  have hback' := ix.lineOffset_point b
  rcases Nat.lt_or_eq_of_le hcount with hlt | heq
  · left
    simp only [line_point]
    omega
  · -- Both places are on one line, and columns count from its start.
    have hsame : (ix.point a).line = (ix.point b).line := by rw [line_point, line_point, heq]
    rw [hsame] at hback
    exact .inr ⟨hsame, by omega⟩

/-- Offsets, clamped to the source, and addresses determine each other: the line of an offset counts
the line feeds before it, its column the characters behind the last of them, and both count from
one. -/
theorem point_addresses (ix : LineIndex) (offset : Int) :
    ∃ o : Nat, (o : Int) = max 0 (min offset ix.source.length) ∧
      (ix.point offset).offset = o ∧
      (ix.point offset).line = 1 + (ix.source.take o).count '\n' ∧
      (ix.point offset).column = o - (Text.throughLastBreak (ix.source.take o)).length + 1 ∧
      ix.lineOffset ((ix.point offset).line - 1) + (ix.point offset).column - 1 = o ∧
      ix.Address (ix.point offset).line (ix.point offset).column ∧
      (∀ line column, ix.Address line column →
        ix.point (ix.lineOffset (line - 1) + column - 1) =
          ⟨line, column, ix.lineOffset (line - 1) + column - 1⟩) ∧
      ∀ offset', offset ≤ offset' →
        (ix.point offset).line < (ix.point offset').line ∨
          (ix.point offset).line = (ix.point offset').line ∧
            (ix.point offset).column ≤ (ix.point offset').column := by
  have hlast := Text.length_throughLastBreak_add (ix.source.take (ix.clamp offset))
  rw [List.length_take_of_le (ix.clamp_le_size offset)] at hlast
  refine ⟨ix.clamp offset, ?_, rfl, ?_, ?_, ix.lineOffset_point offset, ix.address_point offset,
    fun _ _ => point_of_address, fun _ => ix.point_mono⟩
  · simp only [clamp, size]
    omega
  · rw [line_point, Int.add_comm]
  · rw [column_point]
    omega

/-- Behind the last line feed of a source there is one more line, on which its end stands. -/
theorem point_addresses_finalBreak :
    (ofText ['a', '\n']).Address 2 1 ∧
      (ofText ['a', '\n']).point ((ofText ['a', '\n']).lineOffset (2 - 1) + 1 - 1) = ⟨2, 1, 2⟩ ∧
      ((1 : Int) ≤ 2 ∧ (((ofText ['a', '\n']).point 1).line < ((ofText ['a', '\n']).point 2).line ∨
        ((ofText ['a', '\n']).point 1).line = ((ofText ['a', '\n']).point 2).line ∧
          ((ofText ['a', '\n']).point 1).column ≤ ((ofText ['a', '\n']).point 2).column)) := by
  rcases point_addresses (ofText ['a', '\n']) 1 with ⟨o, -, -, -, -, -, -, hback, hmono⟩
  have haddress : (ofText ['a', '\n']).Address 2 1 :=
    ⟨by decide, by decide, by decide, by decide, by decide⟩
  exact ⟨haddress, hback 2 1 haddress, by decide, hmono 2 (by decide)⟩

end LineIndex
end LiquidMarkdown
