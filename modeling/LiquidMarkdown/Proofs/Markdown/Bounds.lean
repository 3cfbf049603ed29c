import LiquidMarkdown.Proofs.Markdown.Order

/-!
# Where a search ends

A text that is looked up between the cursor and the limit of a block is found between them,
character by character, or the cursor stays.  This file defines:

* `Placed` — every character of a text stands between the cursor before it and the place behind it,
  and two of them stand at least as far from each other as in the text.

The main result is `Walk.placed_locate?`.
-/

namespace LiquidMarkdown

/-! ## Distances -/

namespace OffsetMap.Advances

variable {m : OffsetMap} {ix : LineIndex} {B : Nat → Nat} {n i : Nat}

/-- There is room in the source for all characters that stand between two places. -/
theorem add_le (h : m.Advances ix True B n) (k : Nat) (hk : i + k ≤ n) : B i + k ≤ B (i + k) := by
  induction k with
  | zero => exact Nat.le_refl _
  | succ k ih =>
      have hbefore := ih (Nat.le_of_succ_le hk)
      obtain ⟨o, -, hlo, hhi, hinside⟩ := h.resolves (i + k) hk
      have hsize := hinside trivial
      rw [LineIndex.clamp_natCast] at hlo hhi
      change B i + (k + 1) ≤ B (i + k + 1)
      omega

end OffsetMap.Advances

namespace Markdown

variable {source t : Text} {lines : List Text} {segments : List (Int × Int)} {m : OffsetMap}
  {limit index start cursor place place' : Nat}

/-! ## Limits -/

theorem le_limit_of_findWithin? (h : findWithin? source limit t cursor = some start) :
    start + t.length ≤ limit := by
  have hstop := Text.le_length_of_findFrom? h
  rw [List.length_take] at hstop
  omega

/-- No line goes beyond the limit. -/
theorem le_limit_of_locateLines? (hplace : place ≤ limit)
    (h : locateLines? source limit index place lines = some (segments, place')) :
    place' ≤ limit := by
  induction lines generalizing index place segments with
  | nil =>
      cases h
      exact hplace
  | cons line lines ih =>
      rw [locateLines?] at h
      simp only [Option.bind_eq_bind, Option.bind_eq_some_iff] at h
      obtain ⟨start, -, h⟩ := h
      split at h
      · cases h
      · next hc =>
          have hstop : start + line.length ≤ limit := by
            simp only [Bool.or_eq_true, decide_eq_true_eq, not_or] at hc
            exact Nat.not_lt.1 hc.1
          simp only [Option.pure_def, Option.bind_eq_some_iff, Option.some.injEq, Prod.mk.injEq,
            Prod.exists] at h
          obtain ⟨segments', _, hrest, -, rfl⟩ := h
          exact ih hstop hrest

theorem le_limit_of_locate? (h : locate? source limit t cursor = some (m, place)) :
    place ≤ limit := by
  unfold locate? at h
  split at h
  · cases h
  · split at h
    · next hfound =>
        cases h
        exact le_limit_of_findWithin? hfound
    · split at h
      · cases h
      · simp only [Option.bind_eq_bind, Option.bind_eq_some_iff, Option.pure_def, Option.some.injEq,
          Prod.mk.injEq, Prod.exists] at h
        obtain ⟨start, hfirst, segments, place', hrest, -, rfl⟩ := h
        exact le_limit_of_locateLines? (le_limit_of_findWithin? hfirst) hrest

/-! ## Characters -/

/-- Every character of the text stands in the source where the map leads, unless it is a line feed:
at the cursor or behind it, and before a place within the limit.  A character stands behind those
before it, at least as far from them as in the text. -/
structure Placed (source t : Text) (limit cursor : Nat) (m : OffsetMap) (place : Nat) : Prop where
  le_limit : place ≤ limit
  stands : ∀ i < t.length, ∃ o : Nat, m.resolve? i = some (o : Int) ∧ cursor ≤ o ∧ o < place ∧
    (t[i]? ≠ some '\n' → source[o]? = t[i]?)
  apart : ∀ i j : Nat, i < j → j < t.length → ∃ o o' : Nat, m.resolve? i = some (o : Int) ∧
    m.resolve? j = some (o' : Int) ∧ o < o' ∧ j - i ≤ o' - o

/-- A map that traces a text leads from each character but a line feed to the same character. -/
theorem getElem?_of_traces (h : m.Traces source t) {i o : Nat} (hi : i < t.length)
    (ho : m.resolve? i = some (o : Int)) (hchar : t[i]? ≠ some '\n') : source[o]? = t[i]? := by
  have hline : '\n' ∉ t.slice i (i + 0 + 1) := by
    intro hmem
    obtain ⟨k, hle, hlt, hk⟩ := Text.mem_slice.1 hmem
    have hki : k = i := by omega
    exact hchar (hki ▸ hk)
  obtain ⟨a, ha, -, hslice⟩ := h.findsLines i 0 hi hline
  have hao : a = o := by
    rw [ha, Option.some.injEq] at ho
    omega
  have hget := congrArg (·[0]?) hslice
  simpa [Text.getElem?_slice, hao] using hget

theorem placed_of_locate? (h : locate? source limit t cursor = some (m, place)) :
    Placed source t limit cursor m place := by
  obtain ⟨B, hfirst, hlast, hadvances⟩ := advances_of_locate? h
  have htraces := traces_of_locate? h
  have hresolve {i : Nat} (hi : i < t.length) : ∃ o : Nat, m.resolve? i = some (o : Int) ∧ B i ≤ o ∧
      o + 1 ≤ B (i + 1) := by
    obtain ⟨o, ho, hlo, hhi, hinside⟩ := hadvances.resolves i hi
    have hsize := hinside trivial
    rw [LineIndex.clamp_natCast] at hlo hhi
    exact ⟨o, ho, by omega, by omega⟩
  refine ⟨le_limit_of_locate? h, fun i hi => ?_, fun i j hij hj => ?_⟩
  · obtain ⟨o, ho, hlo, hhi⟩ := hresolve hi
    have hbefore : B 0 ≤ B i := hadvances.le (Nat.zero_le i) (Nat.le_of_lt hi)
    have hbehind : B (i + 1) ≤ B t.length := hadvances.le hi (Nat.le_refl _)
    exact ⟨o, ho, by omega, by omega, getElem?_of_traces htraces hi ho⟩
  · obtain ⟨k, rfl⟩ : ∃ k, j = i + 1 + k := Nat.exists_eq_add_of_le hij
    obtain ⟨o, ho, -, hhi⟩ := hresolve (Nat.lt_trans hij hj)
    obtain ⟨o', ho', hlo, -⟩ := hresolve hj
    have hbetween := hadvances.add_le k (Nat.le_of_lt hj)
    exact ⟨o, o', ho, ho', by omega, by omega⟩

/-! ## The cursor -/

/-- A text that is looked up in a block is placed between the cursor and the limit of the block, and
the cursor moves behind it, be it the text of a leaf or content to be passed over; or it is not
found, and the cursor stays where it is. -/
theorem Walk.placed_locate? (w : Walk) (t : Text) (cursor : Nat) :
    match w.locate? t cursor with
    | some (m, place) => Placed w.index.source t w.limit cursor m place ∧
        w.passOver t cursor = place ∧ (w.textNode t cursor).2 = place
    | none => w.passOver t cursor = cursor ∧ (w.textNode t cursor).2 = cursor := by
  cases h : w.locate? t cursor with
  | none => exact ⟨by rw [passOver, h]; rfl, by rw [textNode, h]⟩
  | some found =>
      exact ⟨placed_of_locate? h, by rw [passOver, h]; rfl, by rw [textNode, h]⟩

end Markdown
end LiquidMarkdown
