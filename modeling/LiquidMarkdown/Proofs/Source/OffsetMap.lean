import LiquidMarkdown.Source.OffsetMap

/-!
# Laws of offset maps

What a map resolves, said by its segments.  This file states:

* `OffsetMap.exists_resolve?`, `OffsetMap.exists_span?`, `OffsetMap.exists_shift?` — a map with a
  segment resolves every index;
* `OffsetMap.exists_split` — where an index falls among the segments of an ascending map;
* `OffsetMap.resolve?_of_split` — the segment before that place resolves the index;
* `OffsetMap.resolve?_shift`, `OffsetMap.span?_shift` — to shift a map is to count from a later
  index;
* `OffsetMap.shift?_shift` — shifts one after another add up;
* `OffsetMap.exists_shift?_rebased` — all of this, of every map with a segment.
-/

namespace LiquidMarkdown

/-- The halving search never leaves its range. -/
theorem bisect_le {beyond : Nat → Bool} {lo hi : Nat} (h : lo ≤ hi) : bisect beyond lo hi ≤ hi := by
  fun_induction bisect beyond lo hi with
  | case1 lo hi hlt _ ih =>
      have hm : lo ≤ (lo + hi) / 2 := by omega
      exact Nat.le_trans (ih hm) (by omega)
  | case2 lo hi hlt _ ih => exact ih (by omega)
  | case3 lo hi _ => exact h

namespace OffsetMap

variable {m m' : OffsetMap}

/-! ## Maps with segments -/

theorem exists_segmentAt? (h : m.segments ≠ []) (i : Int) : ∃ s, m.segmentAt? i = some s := by
  have hpos : 0 < m.segments.length := List.length_pos_iff.2 h
  have hlt : bisect (fun k => decide (i < (m.segments.getD k (0, 0)).1)) 0 m.segments.length - 1
      < m.segments.length := by
    have hle : bisect (fun k => decide (i < (m.segments.getD k (0, 0)).1)) 0 m.segments.length ≤
        m.segments.length :=
      bisect_le (Nat.zero_le m.segments.length)
    omega
  exact ⟨_, List.getElem?_eq_getElem hlt⟩

theorem exists_resolve? (h : m.segments ≠ []) (i : Int) : ∃ o, m.resolve? i = some o := by
  rcases exists_segmentAt? h i with ⟨s, hs⟩
  exact ⟨s.2 + i - s.1, by rw [resolve?, hs]; rfl⟩

theorem exists_span? (h : m.segments ≠ []) (start stop : Int) :
    ∃ s, m.span? start stop = some s := by
  rcases exists_resolve? h start with ⟨first, hf⟩
  rcases exists_resolve? h (stop - 1) with ⟨last, hl⟩
  unfold span?
  rw [hf, hl]
  by_cases hle : stop ≤ start
  · exact ⟨(first, first), by simp [hle]⟩
  · exact ⟨(first, last + 1), by simp [hle]⟩

theorem exists_shift? (h : m.segments ≠ []) (start : Int) :
    ∃ m', m.shift? start = some m' ∧ m'.segments ≠ [] := by
  rcases exists_resolve? h start with ⟨first, hf⟩
  refine ⟨_, by rw [shift?, hf]; rfl, ?_⟩
  exact List.cons_ne_nil _ _

/-! ## Ascending maps -/

/-- The segments stand in ascending order of their local indexes. -/
def Ascending (m : OffsetMap) : Prop :=
  m.segments.Pairwise fun s s' => s.1 ≤ s'.1

theorem Ascending.split (ha : m.Ascending) {pre post : List (Int × Int)} {s : Int × Int}
    (hm : m.segments = pre ++ s :: post) : ∀ s' ∈ pre, s'.1 ≤ s.1 := by
  unfold Ascending at ha
  rw [hm] at ha
  intro s' hs'
  exact (List.pairwise_append.1 ha).2.2 s' hs' s List.mem_cons_self

/-- An index falls behind the segments that start at it or before it, and before the others.  An
index before all segments falls to the first one. -/
theorem exists_split (ha : m.Ascending) (h : m.segments ≠ []) (i : Int) :
    ∃ pre s post, m.segments = pre ++ s :: post ∧ (s.1 ≤ i ∨ pre = []) ∧
      ∀ s' ∈ post, i < s'.1 := by
  unfold Ascending at ha
  generalize m.segments = segments at ha h
  induction segments with
  | nil => exact absurd rfl h
  | cons s rest ih =>
      rcases List.pairwise_cons.1 ha with ⟨hhead, hrest⟩
      -- Whether the next segment starts behind the index decides where the index falls.
      cases rest with
      | nil => exact ⟨[], s, [], rfl, .inr rfl, fun _ h => absurd h List.not_mem_nil⟩
      | cons next rest =>
          by_cases hn : next.1 ≤ i
          · rcases ih hrest (List.cons_ne_nil _ _) with ⟨pre, s', post, he, hs', hpost⟩
            refine ⟨s :: pre, s', post, by rw [he, List.cons_append], .inl ?_, hpost⟩
            rcases hs' with hle | rfl
            · exact hle
            · rw [List.nil_append, List.cons.injEq] at he
              exact he.1 ▸ hn
          · refine ⟨[], s, next :: rest, rfl, .inr rfl, ?_⟩
            intro s' hs'
            rcases List.mem_cons.1 hs' with rfl | hs'
            · omega
            · have hle := (List.pairwise_cons.1 hrest).1 s' hs'
              omega

theorem segmentAt?_of_split {pre post : List (Int × Int)} {s : Int × Int} {i : Int}
    (ha : m.Ascending) (hm : m.segments = pre ++ s :: post) (hs : s.1 ≤ i ∨ pre = [])
    (hpost : ∀ s' ∈ post, i < s'.1) : m.segmentAt? i = some s := by
  have hlen : m.segments.length = pre.length + post.length + 1 := by
    rw [hm]
    simp
    omega
  have hat : m.segments[pre.length]? = some s := by
    rw [hm]
    simp
  -- The search ends at the first segment that starts behind the index.
  have hbehind (k : Nat) (hk : pre.length < k) (hl : k < m.segments.length) :
      i < (m.segments.getD k (0, 0)).1 := by
    apply hpost _
    have hlast : k - pre.length - 1 < post.length := by omega
    have hget : m.segments.getD k (0, 0) = post.get ⟨k - pre.length - 1, hlast⟩ := by
      obtain ⟨j, rfl⟩ : ∃ j, k = pre.length + (j + 1) := ⟨k - pre.length - 1, by omega⟩
      have hj : j < post.length := by omega
      simp [hm, List.getD_eq_getElem?_getD, hj]
    rw [hget]
    exact List.getElem_mem _
  have hbefore (hle : s.1 ≤ i) (k : Nat) (hk : k ≤ pre.length) :
      ¬ i < (m.segments.getD k (0, 0)).1 := by
    rcases Nat.lt_or_eq_of_le hk with hk | rfl
    · have hpair := (ha.split hm) (pre.get ⟨k, hk⟩) (List.getElem_mem _)
      have hget : m.segments.getD k (0, 0) = pre.get ⟨k, hk⟩ := by
        simp [hm, List.getD_eq_getElem?_getD, List.getElem?_append_left, hk]
      rw [hget]
      omega
    · simp [List.getD_eq_getElem?_getD, hat, hle]
  simp only [segmentAt?]
  by_cases hle : s.1 ≤ i
  · rw [bisect_eq (k := pre.length + 1) (by omega) (by omega)
      (fun k _ hk => decide_eq_false (hbefore hle k (by omega)))
      (fun k hk hl => decide_eq_true (hbehind k hk hl))]
    exact hat
  · -- The first segment is behind the index already.
    have hnil : pre = [] := hs.resolve_left hle
    subst hnil
    have hzero : i < (m.segments.getD 0 (0, 0)).1 := by
      rw [hm]
      exact Int.not_le.1 hle
    rw [bisect_eq (k := 0) (by omega) (by omega) (fun k _ hk => absurd hk (Nat.not_lt_zero k))
      (fun k _ hl => decide_eq_true ?_)]
    · exact hat
    · rcases Nat.eq_zero_or_pos k with rfl | hk
      · exact hzero
      · exact hbehind k hk hl

theorem resolve?_of_split {pre post : List (Int × Int)} {s : Int × Int} {i : Int}
    (ha : m.Ascending) (hm : m.segments = pre ++ s :: post) (hs : s.1 ≤ i ∨ pre = [])
    (hpost : ∀ s' ∈ post, i < s'.1) : m.resolve? i = some (s.2 + i - s.1) := by
  rw [resolve?, segmentAt?_of_split ha hm hs hpost]
  rfl

/-! ## Shifted maps -/

/-- The segments behind an index, counted from there. -/
def laterSegments (m : OffsetMap) (start : Int) : List (Int × Int) :=
  (m.segments.filter (start < ·.1)).map fun s => (s.1 - start, s.2)

theorem mem_laterSegments {start : Int} {s : Int × Int} (h : s ∈ m.laterSegments start) :
    ∃ s' ∈ m.segments, start < s'.1 ∧ s = (s'.1 - start, s'.2) := by
  rcases List.mem_map.1 h with ⟨s', hs', rfl⟩
  rcases List.mem_filter.1 hs' with ⟨hm, hlt⟩
  exact ⟨s', hm, of_decide_eq_true hlt, rfl⟩

theorem mem_laterSegments_of_lt {start : Int} {s : Int × Int} (hs : s ∈ m.segments)
    (hlt : start < s.1) : (s.1 - start, s.2) ∈ m.laterSegments start :=
  List.mem_map.2 ⟨s, List.mem_filter.2 ⟨hs, decide_eq_true hlt⟩, rfl⟩

theorem shift?_eq (m : OffsetMap) (start : Int) :
    m.shift? start = (m.resolve? start).map fun first => ⟨(0, first) :: m.laterSegments start⟩ :=
  rfl

theorem exists_of_shift? {start : Int} (h : m.shift? start = some m') :
    ∃ first, m.resolve? start = some first ∧ m' = ⟨(0, first) :: m.laterSegments start⟩ := by
  rcases Option.map_eq_some_iff.1 h with ⟨first, hf, rfl⟩
  exact ⟨first, hf, rfl⟩

theorem ascending_of_shift? {start : Int} (ha : m.Ascending) (h : m.shift? start = some m') :
    m'.Ascending := by
  rcases exists_of_shift? h with ⟨first, _, rfl⟩
  refine List.pairwise_cons.2 ⟨?_, ?_⟩
  · intro s hs
    rcases mem_laterSegments hs with ⟨s', _, hlt, rfl⟩
    simp only
    omega
  · refine List.pairwise_map.2 ((ha.sublist List.filter_sublist).imp fun {s s'} hle => ?_)
    simp only
    omega

/-- Where a segment is kept, so are those behind it. -/
theorem laterSegments_of_split {pre post : List (Int × Int)} {s : Int × Int} {start : Int}
    (hm : m.segments = pre ++ s :: post) (hs : start < s.1) (hpost : ∀ s' ∈ post, start < s'.1) :
    m.laterSegments start = (pre.filter (start < ·.1)).map (fun s => (s.1 - start, s.2)) ++
      (s.1 - start, s.2) :: post.map fun s => (s.1 - start, s.2) := by
  have hkept : post.filter (start < ·.1) = post :=
    List.filter_eq_self.2 fun s' hs' => decide_eq_true (hpost s' hs')
  rw [laterSegments, hm, List.filter_append, List.filter_cons_of_pos (by simpa using hs), hkept,
    List.map_append, List.map_cons]

/-- To shift a map is to count from a later index. -/
theorem resolve?_shift {start i : Int} (ha : m.Ascending) (h : m.shift? start = some m')
    (hi : 0 ≤ i) : m'.resolve? i = m.resolve? (start + i) := by
  have ha' := ascending_of_shift? ha h
  rcases exists_of_shift? h with ⟨first, hf, rfl⟩
  have hne : m.segments ≠ [] := by
    intro hnil
    simp [resolve?, segmentAt?, hnil] at hf
  rcases exists_split ha hne (start + i) with ⟨pre, s, post, hm, hs, hpost⟩
  rw [resolve?_of_split ha hm hs hpost]
  -- Where no later segment reaches the index, it falls to the new first segment.
  have hnew (hlater : ∀ s' ∈ m.segments, start < s'.1 → start + i < s'.1)
      (hfirst : m.resolve? start = some (s.2 + start - s.1)) :
      (⟨(0, first) :: m.laterSegments start⟩ : OffsetMap).resolve? i =
        some (s.2 + (start + i) - s.1) := by
    rw [hf, Option.some.injEq] at hfirst
    rw [resolve?_of_split ha' (List.nil_append _).symm (.inr rfl) fun s' hs' => ?_]
    · simp only [Option.some.injEq]
      omega
    · rcases mem_laterSegments hs' with ⟨u, hu, hlt, rfl⟩
      have := hlater u hu hlt
      simp only
      omega
  by_cases hss : start < s.1
  · by_cases hsi : s.1 ≤ start + i
    · have hkept (s' : Int × Int) (hs' : s' ∈ post) : start < s'.1 := by
        have := hpost s' hs'
        omega
      have hsplit : (0, first) :: m.laterSegments start =
          ((0, first) :: (pre.filter (start < ·.1)).map fun s => (s.1 - start, s.2)) ++
            (s.1 - start, s.2) :: post.map fun s => (s.1 - start, s.2) := by
        rw [laterSegments_of_split hm hss hkept, List.cons_append]
      rw [resolve?_of_split ha' hsplit (.inl (by simp only; omega)) fun s' hs' => ?_]
      · simp only [Option.some.injEq]
        omega
      · rcases List.mem_map.1 hs' with ⟨u, hu, rfl⟩
        have := hpost u hu
        simp only
        omega
    · -- The index is before all segments, and so is the start.
      have hnil : pre = [] := hs.resolve_left hsi
      subst hnil
      refine hnew (fun s' hs' _ => ?_) (resolve?_of_split ha hm (.inr rfl) fun s' hs' => ?_)
      · rw [hm] at hs'
        rcases List.mem_cons.1 hs' with rfl | hs'
        · omega
        · exact hpost s' hs'
      · have := hpost s' hs'
        omega
  · -- The start falls to the same segment as the index.
    refine hnew (fun s' hs' hlt => ?_)
      (resolve?_of_split ha hm (.inl (by omega)) fun s' hs' => ?_)
    · rw [hm] at hs'
      rcases List.mem_append.1 hs' with hs' | hs'
      · have := ha.split hm s' hs'
        omega
      · rcases List.mem_cons.1 hs' with rfl | hs'
        · omega
        · exact hpost s' hs'
    · have := hpost s' hs'
      omega

/-- The range of a part of the text that begins later is the range of this part of the whole. -/
theorem span?_shift {start a b : Int} (ha : m.Ascending) (h : m.shift? start = some m') (h₀ : 0 ≤ a)
    (hab : a < b) : m'.span? a b = m.span? (start + a) (start + b) := by
  have hlast : m'.resolve? (b - 1) = m.resolve? (start + b - 1) := by
    rw [resolve?_shift ha h (by omega), Int.add_sub_assoc]
  have hnot : ¬ b ≤ a := by omega
  have hnot' : ¬ start + b ≤ start + a := by omega
  simp only [span?, resolve?_shift ha h h₀, hlast, hnot, hnot', if_false]

/-- The segments that a second shift keeps are those behind the place where both lead. -/
theorem laterSegments_cons_laterSegments (first a : Int) {b : Int} (hb : 0 ≤ b) :
    (⟨(0, first) :: m.laterSegments a⟩ : OffsetMap).laterSegments b = m.laterSegments (a + b) := by
  -- The new first segment starts at zero and is not behind any later place.
  have hzero : ¬ b < 0 := by omega
  have hkept (s : Int × Int) :
      (decide (b < s.1 - a) && decide (a < s.1)) = decide (a + b < s.1) := by
    rw [← Bool.decide_and]
    exact decide_eq_decide.2 (by omega)
  have hcounted (s : Int × Int) : (s.1 - a - b, s.2) = (s.1 - (a + b), s.2) := by
    rw [Int.sub_sub]
  simp only [laterSegments, List.filter_cons, hzero, decide_false, Bool.false_eq_true, if_false,
    List.filter_map, List.filter_filter, List.map_map, Function.comp_def, hkept, hcounted]

/-- Shifts one after another add up. -/
theorem shift?_shift {a b : Int} (ha : m.Ascending) (h : m.shift? a = some m') (hb : 0 ≤ b) :
    m'.shift? b = m.shift? (a + b) := by
  have hresolve := resolve?_shift ha h hb
  rcases exists_of_shift? h with ⟨first, -, rfl⟩
  rw [shift?_eq, shift?_eq, hresolve, laterSegments_cons_laterSegments first a hb]

/-- To shift a map is to count from a later index, for the offsets of characters, for the ranges of
parts and for what a further shift gives. -/
theorem exists_shift?_rebased (h : m.segments ≠ []) (ha : m.Ascending) (start : Int) :
    ∃ m', m.shift? start = some m' ∧
      (∀ i, 0 ≤ i → ∃ o, m'.resolve? i = some o ∧ m.resolve? (start + i) = some o) ∧
      (∀ b, 0 ≤ b → ∃ m'', m'.shift? b = some m'' ∧ m.shift? (start + b) = some m'') ∧
      ∀ a b, 0 ≤ a → a < b →
        ∃ s, m'.span? a b = some s ∧ m.span? (start + a) (start + b) = some s := by
  rcases exists_shift? h start with ⟨m', hm', -⟩
  refine ⟨m', hm', ?_, ?_, ?_⟩
  · intro i hi
    rcases exists_resolve? h (start + i) with ⟨o, ho⟩
    exact ⟨o, (resolve?_shift ha hm' hi).trans ho, ho⟩
  · intro b hb
    rcases exists_shift? h (start + b) with ⟨m'', hm'', -⟩
    exact ⟨m'', (shift?_shift ha hm' hb).trans hm'', hm''⟩
  · intro a b h₀ hab
    rcases exists_span? h (start + a) (start + b) with ⟨s, hs⟩
    exact ⟨s, (span?_shift ha hm' h₀ hab).trans hs, hs⟩

/-- A shift leads to an index at which two segments start: the second of them counts. -/
theorem exists_shift?_rebased_sharedStart :
    let m : OffsetMap := ⟨[(0, 5), (3, 10), (3, 12), (7, 20)]⟩
    m.Ascending ∧ ∃ m', m.shift? 3 = some m' ∧ m'.segments = [(0, 12), (4, 20)] ∧
      m'.resolve? 0 = some 12 ∧ m'.shift? 4 = m.shift? 7 ∧ m'.span? 1 5 = some (13, 21) := by
  have hshift : (⟨[(0, 5), (3, 10), (3, 12), (7, 20)]⟩ : OffsetMap).shift? 3 =
      some ⟨[(0, 12), (4, 20)]⟩ := by decide +kernel
  have ha : (⟨[(0, 5), (3, 10), (3, 12), (7, 20)]⟩ : OffsetMap).Ascending := by
    unfold Ascending
    decide
  rcases exists_shift?_rebased (List.cons_ne_nil _ _) ha 3 with ⟨m', hm', hresolve, hagain, hspan⟩
  rcases hresolve 0 (Int.le_refl 0) with ⟨o, ho, ho'⟩
  rcases hagain 4 (by decide) with ⟨m'', hm'', hboth⟩
  rcases hspan 1 5 (by decide) (by decide) with ⟨s, hs, hs'⟩
  have hfirst : (⟨[(0, 5), (3, 10), (3, 12), (7, 20)]⟩ : OffsetMap).resolve? (3 + 0) =
      some 12 := by decide +kernel
  have hpart : (⟨[(0, 5), (3, 10), (3, 12), (7, 20)]⟩ : OffsetMap).span? (3 + 1) (3 + 5) =
      some (13, 21) := by decide +kernel
  refine ⟨ha, m', hm', ?_, ho.trans (ho'.symm.trans hfirst), hm''.trans hboth.symm,
    hs.trans (hs'.symm.trans hpart)⟩
  rw [hm', Option.some.injEq] at hshift
  rw [hshift]

end OffsetMap
end LiquidMarkdown
