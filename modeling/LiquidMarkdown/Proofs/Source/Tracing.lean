import LiquidMarkdown.Proofs.Source.OffsetMap
import LiquidMarkdown.Proofs.Text.Slice

/-!
# Tracing a text to its source

An offset map traces a text if it leads from every part of one line of the text to the same part of
the source.  A map in several pieces has to have a segment behind every line feed, so that the rest
of a text on its last line is known to stand in one piece.  This file defines:

* `OffsetMap.Traces` — the map traces a text to its source;
* `OffsetMap.Traces.span?` — the source range of a part of one line holds that part;
* `OffsetMap.Traces.shift?` — the shifted map traces the later parts of the text;
* `OffsetMap.Traces.contiguous` — so does the map that starts over at a part of a text in one piece.
-/

namespace LiquidMarkdown
namespace OffsetMap

variable {m m' : OffsetMap} {source t u : Text}

/-! ## Maps of one piece -/

theorem resolve?_contiguous (o i : Int) : (contiguous o).resolve? i = some (o + i) := by
  have ha : (contiguous o).Ascending := List.pairwise_singleton _ _
  have hsplit : (contiguous o).segments = [] ++ (0, o) :: [] := rfl
  rw [resolve?_of_split ha hsplit (.inr rfl) fun _ h => absurd h List.not_mem_nil]
  simp only [Option.some.injEq]
  omega

/-! ## Tracing -/

/-- Every part of one line of the text is found in the source where the map says. -/
def FindsLines (source : Text) (m : OffsetMap) (t : Text) : Prop :=
  ∀ i n : Nat, i + n < t.length → '\n' ∉ t.slice i (i + n + 1) →
    ∃ a : Nat, m.resolve? i = some (a : Int) ∧
      m.resolve? (i + n : Nat) = some ((a + n : Nat) : Int) ∧
      source.slice a (a + n + 1) = t.slice i (i + n + 1)

/-- The map traces the text to the source: the text stands there in one piece, or line by line with
a segment for each line. -/
inductive Traces (source : Text) : OffsetMap → Text → Prop where
  | piece {t : Text} (o : Nat) (h : source.slice o (o + t.length) = t) :
      Traces source (contiguous o) t
  | lines {m : OffsetMap} {t : Text} (hm : m.isContiguous = false) (ascending : m.Ascending)
      (finds : m.FindsLines source t)
      (breaks : ∀ i : Nat, t[i]? = some '\n' → ∃ s ∈ m.segments, s.1 = i + 1) : Traces source m t

namespace Traces

theorem findsLines (h : m.Traces source t) : m.FindsLines source t := by
  cases h with
  | lines _ _ finds _ => exact finds
  | piece o h =>
      intro i n hlt _
      refine ⟨o + i, ?_, ?_, ?_⟩
      · rw [resolve?_contiguous]
        rfl
      · rw [resolve?_contiguous]
        simp only [Option.some.injEq]
        omega
      · calc
          source.slice (o + i) (o + i + n + 1)
              = (source.slice o (o + t.length)).slice i (i + n + 1) := by
                rw [Text.slice_slice source (by omega)]
                simp only [Nat.add_assoc]
          _ = t.slice i (i + n + 1) := by rw [h]

/-- A map that traces a text has a segment. -/
theorem segments_ne_nil (h : m.Traces source t) (ht : t ≠ []) : m.segments ≠ [] := by
  rcases List.exists_cons_of_ne_nil ht with ⟨c, t', rfl⟩
  cases h with
  | piece o _ => exact List.cons_ne_nil _ _
  | lines _ _ finds breaks =>
      intro hnil
      -- The first character is a line feed, with a segment behind it, or it is resolved itself.
      by_cases hc : c = '\n'
      · rcases breaks 0 (by rw [hc]; rfl) with ⟨s, hs, _⟩
        rw [hnil] at hs
        cases hs
      · rcases finds 0 0 (by simp) (by simpa [Text.slice] using Ne.symm hc) with ⟨a, ha, _⟩
        simp [resolve?, segmentAt?, hnil] at ha

/-- The source range of a part of one line holds that part. -/
theorem span? (h : m.Traces source t) {start : Nat} (hu : u.OccursAt t start) (hne : u ≠ [])
    (hline : '\n' ∉ u) {first last : Int}
    (hs : m.span? start ((start + u.length : Nat) : Int) = some (first, last)) :
    ∃ a : Nat, first = a ∧ last = ((a + u.length : Nat) : Int) ∧
      source.slice a (a + u.length) = u := by
  obtain ⟨n, hn⟩ : ∃ n, u.length = n + 1 :=
    Nat.exists_eq_succ_of_ne_zero fun h => hne (List.length_eq_zero_iff.1 h)
  -- The end of the range is the place behind the last character.
  have hslice := hu.slice_eq
  have hle := hu.le_length
  rw [hn] at hslice hle hs ⊢
  obtain ⟨a, hfirst, hlast, hsource⟩ := h.findsLines start n (by omega) (by
    rw [Nat.add_assoc, hslice]
    exact hline)
  have hstop : ((start + (n + 1) : Nat) : Int) - 1 = ((start + n : Nat) : Int) := by omega
  have hlt : ¬ ((start + (n + 1) : Nat) : Int) ≤ (start : Int) := by omega
  simp only [OffsetMap.span?, hfirst, hstop, hlast, hlt, if_false, Option.bind_eq_bind,
    Option.bind_some, Option.pure_def, Option.some.injEq, Prod.mk.injEq] at hs
  refine ⟨a, hs.1.symm, by omega, ?_⟩
  rw [← Nat.add_assoc, hsource, Nat.add_assoc, hslice]

/-- Where the text stands in one piece, every part of it does. -/
theorem contiguous {o start : Nat} (h : (OffsetMap.contiguous o).Traces source t)
    (hu : u.OccursAt t start) :
    (OffsetMap.contiguous ((o + start : Nat) : Int)).Traces source u := by
  refine .piece _ ?_
  cases h with
  | lines hm _ _ _ => cases hm
  | piece _ h =>
      calc
        source.slice (o + start) (o + start + u.length)
            = (source.slice o (o + t.length)).slice start (start + u.length) := by
              rw [Text.slice_slice source (by have := hu.le_length; omega), Nat.add_assoc]
        _ = u := by rw [h, hu.slice_eq]

/-- The shifted map of several segments traces what begins where it starts. -/
theorem shift? (h : m.Traces source t) (hm : m.isContiguous = false) {start : Nat}
    (hu : u.OccursAt t start) (hne : u ≠ []) (hs : m.shift? start = some m') :
    m'.Traces source u := by
  cases h with
  | piece o _ => cases hm
  | lines _ ascending finds breaks =>
      have hresolve {i : Nat} : m'.resolve? i = m.resolve? (start + i : Nat) :=
        resolve?_shift ascending hs (Int.natCast_nonneg i)
      have hget (i : Nat) (hi : i < u.length) : u[i]? = t[start + i]? := by
        have := Text.getElem?_slice t start (start + u.length) i
        rwa [hu.slice_eq, if_pos (by omega)] at this
      have hle := hu.le_length
      have hfinds : m'.FindsLines source u := by
        intro i n hlt hline
        have hpart : u.slice i (i + n + 1) = t.slice (start + i) (start + i + n + 1) :=
          Text.slice_eq_slice (n := n + 1) fun k hk => by
            rw [hget _ (by omega), Nat.add_assoc]
        rw [hpart] at hline ⊢
        rw [hresolve, hresolve, ← Nat.add_assoc]
        exact finds (start + i) n (by omega) hline
      rcases exists_of_shift? hs with ⟨first, hfirst, hm'⟩
      have hbreaks (i : Nat) (hi : u[i]? = some '\n') :
          ((i : Int) + 1) ∈ (m.laterSegments start).map (·.1) := by
        have hlt : i < u.length := (List.getElem?_eq_some_iff.1 hi).1
        rw [hget i hlt] at hi
        rcases breaks _ hi with ⟨s, hsm, hs1⟩
        have hbehind : (start : Int) < s.1 := by omega
        exact List.mem_map.2 ⟨_, mem_laterSegments_of_lt hsm hbehind, by simp only; omega⟩
      cases hc : m'.isContiguous with
      | false =>
          refine .lines hc (ascending_of_shift? ascending hs) hfinds ?_
          intro i hi
          rcases List.mem_map.1 (hbreaks i hi) with ⟨s, hsm, hs1⟩
          exact ⟨s, by rw [hm']; exact List.mem_cons_of_mem _ hsm, hs1⟩
      | true =>
          -- No segment is left behind the first one, so no line feed is left in the text.
          have hnone : m.laterSegments start = [] := by
            rw [isContiguous, hm'] at hc
            simpa using hc
          have hline : '\n' ∉ u := by
            intro hmem
            rcases List.mem_iff_getElem?.1 hmem with ⟨i, hi⟩
            have hnil := hbreaks i hi
            rw [hnone] at hnil
            cases hnil
          obtain ⟨n, hn⟩ : ∃ n, u.length = n + 1 :=
            Nat.exists_eq_succ_of_ne_zero fun h => hne (List.length_eq_zero_iff.1 h)
          have hwhole : u.slice 0 (0 + n + 1) = u := by
            rw [Nat.zero_add, ← hn, Text.slice_length]
          rcases hfinds 0 n (by omega) (by rwa [hwhole]) with ⟨a, ha, _, hsource⟩
          have hcontiguous : m' = OffsetMap.contiguous a := by
            rw [hresolve, Nat.add_zero, hfirst, Option.some.injEq] at ha
            rw [hm', hnone, ha]
            rfl
          rw [hcontiguous]
          refine .piece a ?_
          rw [hn, ← Nat.add_assoc, hsource, hwhole]

end Traces
end OffsetMap
end LiquidMarkdown
