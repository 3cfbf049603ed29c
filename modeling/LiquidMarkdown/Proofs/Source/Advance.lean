import LiquidMarkdown.Proofs.Document.Segmentation
import LiquidMarkdown.Proofs.Source.Tracing

/-!
# Texts that advance through the source

The characters of a text stand in the source one behind another, whether the text stands there in
one piece or not.  The parts of the text take this from it, by a shifted map or by the place where
they start.  This file defines:

* `OffsetMap.Advances` — a map leads the characters of a text through the source, from place to
  place;
* `OffsetMap.Advances.shift?`, `OffsetMap.Advances.restart` — so do the maps of its parts;
* `Position.Within` — a range of the source between two places;
* `Placement.Spreads` — a text advances through the source, or its place is not known;
* `Placement.Spreads.within`, `Placement.Spreads.textLabel` — what its parts take from it.
-/

namespace LiquidMarkdown

theorem LineIndex.clamp_natCast (ix : LineIndex) (o : Nat) : ix.clamp (o : Int) = min o ix.size :=
  rfl

/-- The range lies between two places of the source; if it has to be `inside`, it is not empty. -/
structure Position.Within (p : Position) (inside : Prop) (lo hi : Nat) : Prop where
  lo_le : (lo : Int) ≤ p.start.offset
  start_le : p.start.offset ≤ p.stop.offset
  le_hi : p.stop.offset ≤ hi
  start_lt : inside → p.start.offset < p.stop.offset

theorem Position.Within.mono {p : Position} {inside : Prop} {lo hi lo' hi' : Nat}
    (h : p.Within inside lo hi) (hlo : lo' ≤ lo) (hhi : hi ≤ hi') : p.Within inside lo' hi' where
  lo_le := Int.le_trans (Int.ofNat_le.2 hlo) h.lo_le
  start_le := h.start_le
  le_hi := Int.le_trans h.le_hi (Int.ofNat_le.2 hhi)
  start_lt := h.start_lt

/-! ## Maps -/

namespace OffsetMap

/-- The map leads `n` characters through the source: the character `i` stands between the places
`B i` and `B (i + 1)`.  A character behind the end of the source counts as standing at the end; if
all of them stand `inside`, there is none. -/
structure Advances (m : OffsetMap) (ix : LineIndex) (inside : Prop) (B : Nat → Nat) (n : Nat) :
    Prop where
  ascending : m.Ascending
  resolves : ∀ i < n, ∃ o : Nat, m.resolve? i = some (o : Int) ∧ B i ≤ ix.clamp o ∧
    ix.clamp (o + 1 : Nat) ≤ B (i + 1) ∧ (inside → o < ix.size)

variable {m m' : OffsetMap} {ix : LineIndex} {inside : Prop} {B : Nat → Nat} {n start stop k : Nat}

namespace Advances

theorem le_succ (h : m.Advances ix inside B n) {i : Nat} (hi : i < n) : B i ≤ B (i + 1) := by
  rcases h.resolves i hi with ⟨o, _, hlo, hhi, _⟩
  rw [LineIndex.clamp_natCast] at hlo hhi
  omega

/-- The places ascend. -/
theorem le (h : m.Advances ix inside B n) {i j : Nat} (hij : i ≤ j) (hj : j ≤ n) : B i ≤ B j := by
  induction hij with
  | refl => exact Nat.le_refl _
  | step _ ih => exact Nat.le_trans (ih (Nat.le_of_succ_le hj)) (h.le_succ hj)

/-- The range of a part of the text lies between the places where the part starts and stops. -/
theorem within (h : m.Advances ix inside B n) (hlt : start < stop) (hle : stop ≤ n) {p : Int × Int}
    (hp : m.span? start stop = some p) :
    (ix.position p.1 p.2).Within inside (B start) (B stop) := by
  have hstop : ((stop - 1 : Nat) : Int) = (stop : Int) - 1 := by omega
  rcases h.resolves start (by omega) with ⟨first, hfirst, hlo, hnext, hinside⟩
  rcases h.resolves (stop - 1) (by omega) with ⟨last, hlast, hlo', hhi, _⟩
  rw [hstop] at hlast
  have hnot : ¬ (stop : Int) ≤ (start : Int) := by omega
  simp only [span?, hfirst, hlast, hnot, if_false, Option.bind_eq_bind, Option.bind_some,
    Option.pure_def, Option.some.injEq] at hp
  subst hp
  have hpred : stop - 1 + 1 = stop := by omega
  rw [hpred] at hhi
  have hfirst_le_last : ix.clamp (first : Nat) ≤ ix.clamp (last : Nat) := by
    rcases Nat.lt_or_ge start (stop - 1) with hij | hij
    · -- The last character stands behind the first one.
      have hbehind : ix.clamp (first + 1 : Nat) ≤ ix.clamp (last : Nat) :=
        Nat.le_trans hnext (Nat.le_trans (h.le hij (by omega)) hlo')
      simp only [LineIndex.clamp_natCast] at hbehind ⊢
      omega
    · -- There is one character only.
      have hsame : ((start : Nat) : Int) = (stop : Int) - 1 := by omega
      rw [hsame, hlast, Option.some.injEq] at hfirst
      have hclamp : ix.clamp (first : Nat) = ix.clamp (last : Nat) := by rw [hfirst]
      exact Nat.le_of_eq hclamp
  have hstart :
      (ix.position (first : Int) ((last : Int) + 1)).start.offset = ix.clamp (first : Nat) :=
    rfl
  have hend : (ix.position (first : Int) ((last : Int) + 1)).stop.offset =
      ix.clamp (last + 1 : Nat) := rfl
  simp only [LineIndex.clamp_natCast] at hlo hhi hstart hend hfirst_le_last
  refine ⟨?_, ?_, ?_, ?_⟩
  · rw [hstart]
    omega
  · rw [hstart, hend]
    omega
  · rw [hend]
    omega
  · intro hin
    have hsize := hinside hin
    rw [hstart, hend]
    omega

/-- The shifted map leads the text that begins where it starts. -/
theorem shift? (h : m.Advances ix inside B n) (hk : start + k ≤ n) (hs : m.shift? start = some m') :
    m'.Advances ix inside (fun i => B (start + i)) k where
  ascending := ascending_of_shift? h.ascending hs
  resolves i hi := by
    have hresolve : m'.resolve? i = m.resolve? (start + i : Nat) :=
      resolve?_shift h.ascending hs (Int.natCast_nonneg i)
    rw [hresolve]
    exact h.resolves (start + i) (by omega)

/-- A map of one piece counts on from wherever it starts. -/
theorem resolve?_add (h : m.Advances ix inside B n) (hm : m.isContiguous = true) {o i : Int}
    (ho : m.resolve? start = some o) : m.resolve? (start + i) = some (o + i) := by
  rcases List.length_eq_one_iff.1 (beq_iff_eq.1 hm) with ⟨s, hs⟩
  have hresolve (j : Int) : m.resolve? j = some (s.2 + j - s.1) :=
    resolve?_of_split h.ascending (by rw [hs, List.nil_append]) (.inr rfl)
      fun _ hs' => absurd hs' List.not_mem_nil
  rw [hresolve, Option.some.injEq] at ho ⊢
  omega

/-- In a text of one piece, the map that starts over at a part leads that part. -/
theorem restart (h : m.Advances ix inside B n) (hm : m.isContiguous = true) (hk : start + k ≤ n)
    {o : Nat} (ho : m.resolve? start = some (o : Int)) :
    (contiguous (ix.clamp o : Nat)).Advances ix inside (fun i => B (start + i)) k where
  ascending := List.pairwise_singleton _ _
  resolves i hi := by
    rcases h.resolves (start + i) (by omega) with ⟨o', ho', hlo, hhi, hinside⟩
    have hadd : m.resolve? ((start : Int) + (i : Int)) = some ((o : Int) + i) :=
      h.resolve?_add hm ho
    have hcast : ((start + i : Nat) : Int) = (start : Int) + i := by omega
    rw [hcast, hadd, Option.some.injEq] at ho'
    have ho'' : o' = o + i := by omega
    subst ho''
    rw [LineIndex.clamp_natCast] at hlo hhi
    refine ⟨ix.clamp o + i, resolve?_contiguous _ _, ?_, ?_, ?_⟩
    · rw [LineIndex.clamp_natCast, LineIndex.clamp_natCast]
      omega
    · rw [LineIndex.clamp_natCast, LineIndex.clamp_natCast]
      exact Nat.le_trans (by omega) hhi
    · intro hin
      have hsize := hinside hin
      rw [LineIndex.clamp_natCast]
      omega

end Advances

/-- A text in one piece advances through the source, be it only up to its end. -/
theorem advances_contiguous (ix : LineIndex) (o n : Nat) :
    (contiguous o).Advances ix False (fun i => ix.clamp (o + i : Nat)) n where
  ascending := List.pairwise_singleton _ _
  resolves i _ := ⟨o + i, resolve?_contiguous _ _, Nat.le_refl _, Nat.le_refl _, False.elim⟩

end OffsetMap

/-! ## Placements -/

namespace Placement

/-- The text advances through the source, or its place is not known. -/
structure Spreads (p : Placement) (ix : LineIndex) (inside : Prop) (B : Nat → Nat) (n : Nat) :
    Prop where
  index : p.index = some ix
  le : ∀ i j, i ≤ j → j ≤ n → B i ≤ B j
  offsets : ∀ m, p.offsets = some m → m.Advances ix inside B n

variable {p : Placement} {ix : LineIndex} {inside : Prop} {B : Nat → Nat} {n start : Nat}

/-- A text without a place has no place between any others. -/
theorem spreads_of_offsets_eq_none (hp : p.index = some ix) (h : p.offsets = none) (lo : Nat) :
    p.Spreads ix inside (fun _ => lo) n where
  index := hp
  le _ _ _ _ := Nat.le_refl lo
  offsets m hm := by
    rw [h] at hm
    cases hm

theorem spreads_of_advances {m : OffsetMap} (hp : p.index = some ix) (hm : p.offsets = some m)
    (h : m.Advances ix inside B n) : p.Spreads ix inside B n where
  index := hp
  le _ _ := h.le
  offsets m' hm' := by
    rw [hm] at hm'
    cases hm'
    exact h

namespace Spreads

/-- The position of a part of the text lies between the places where the part starts and stops. -/
theorem within (h : p.Spreads ix inside B n) {stop : Nat} (hlt : start < stop) (hle : stop ≤ n)
    {position : Option Position} (hposition : p.position start stop = .ok position) {q : Position}
    (hq : position = some q) : q.Within inside (B start) (B stop) := by
  subst hq
  unfold Placement.position at hposition
  split at hposition
  · next m ix' hm hix =>
      rw [h.index] at hix
      cases hix
      split at hposition
      · next a b hs =>
          cases hposition
          exact (h.offsets m hm).within hlt hle hs
      · cases hposition
  · cases hposition

/-- The label of a part that is plain text gives it a place between those of the whole. -/
theorem textLabel (h : p.Spreads ix inside B n) {u : Text} (hne : u ≠ [])
    (hle : start + u.length ≤ n) {l : Label} (hl : p.textLabel start u = .ok l) :
    (l.placement (some ix)).Spreads ix inside (fun i => B (start + i)) u.length := by
  rcases exists_of_textLabel hl with ⟨position, data, hp, hd, rfl⟩
  have hpos : 0 < u.length := List.length_pos_iff.2 hne
  refine ⟨rfl, fun i j hij hj => h.le _ _ (by omega) (by omega), ?_⟩
  intro m' hm'
  simp only [Label.placement, ofText, Label.offset] at hm'
  cases hm : p.offsets with
  | none =>
      -- Without a map there is neither a position nor a part of the map.
      simp only [dataAt, hm] at hd
      simp only [Placement.position, hm] at hp
      cases hd
      cases hp
      cases hm'
  | some m =>
      have hadvances := h.offsets m hm
      simp only [dataAt, hm] at hd
      cases hc : m.isContiguous with
      | false =>
          simp only [hc, Bool.false_eq_true, if_false] at hd
          split at hd
          · next rest hs =>
              cases hd
              cases hm'
              exact hadvances.shift? hle hs
          · cases hd
      | true =>
          -- The part starts over where its position starts.
          simp only [hc, if_true] at hd
          cases hd
          rcases hadvances.resolves start (by omega) with ⟨o, ho, _⟩
          rcases hadvances.resolves (start + u.length - 1) (by omega) with ⟨last, hlast, _⟩
          have hcast :
              ((start + u.length - 1 : Nat) : Int) = ((start + u.length : Nat) : Int) - 1 := by
            omega
          have hnot : ¬ ((start + u.length : Nat) : Int) ≤ (start : Int) := by omega
          rw [hcast] at hlast
          simp only [Placement.position, hm, h.index, OffsetMap.span?, ho, hlast, hnot, if_false,
            Option.bind_eq_bind, Option.bind_some, Option.pure_def] at hp
          cases hp
          cases hm'
          exact hadvances.restart hc hle ho

end Spreads
end Placement
end LiquidMarkdown
