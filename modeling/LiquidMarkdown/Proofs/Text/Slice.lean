import LiquidMarkdown.Text.Basic

/-!
# Slices of a text

* `Text.slice` — the characters from one offset up to another;
* `Text.getElem?_slice`, `Text.mem_slice` — the characters of a slice;
* `Text.slice_slice` — a slice of a slice;
* `Text.OccursAt` — a text stands in another at an offset;
* `Text.slice_of_findFrom?`, `Text.le_length_of_findFrom?` — what a search has found is there;
* `Text.joinWith_splitAt`, `Text.notMem_of_mem_splitAt` — the fields of a text make up the text;
* `Text.lastLine`, `Text.throughLastBreak` — the text behind the last line feed, and the text before
  it.
-/

namespace LiquidMarkdown
namespace Text

/-! ## Slices -/

/-- The characters from `start` up to `stop`. -/
def slice (t : Text) (start stop : Nat) : Text :=
  (t.take stop).drop start

variable {t : Text}

theorem getElem?_slice (t : Text) (i j k : Nat) :
    (t.slice i j)[k]? = if i + k < j then t[i + k]? else none := by
  rw [slice, List.getElem?_drop, List.getElem?_take]

/-- Two slices of one length are equal if their characters are. -/
theorem slice_eq_slice {u : Text} {i a n : Nat} (h : ∀ k < n, t[i + k]? = u[a + k]?) :
    t.slice i (i + n) = u.slice a (a + n) := by
  apply List.ext_getElem?
  intro k
  rw [getElem?_slice, getElem?_slice]
  by_cases hk : k < n
  · rw [if_pos (by omega), if_pos (by omega), h k hk]
  · rw [if_neg (by omega), if_neg (by omega)]

theorem mem_slice {i j : Nat} {c : Char} :
    c ∈ t.slice i j ↔ ∃ k, i ≤ k ∧ k < j ∧ t[k]? = some c := by
  rw [List.mem_iff_getElem?]
  constructor
  · rintro ⟨k, hk⟩
    rw [getElem?_slice] at hk
    split at hk
    · next hlt => exact ⟨i + k, by omega, hlt, hk⟩
    · cases hk
  · rintro ⟨k, hi, hj, hk⟩
    refine ⟨k - i, ?_⟩
    have he : i + (k - i) = k := by omega
    rw [getElem?_slice, he, if_pos hj, hk]

theorem length_slice (t : Text) (i j : Nat) : (t.slice i j).length = min j t.length - i := by
  rw [slice, List.length_drop, List.length_take]

theorem slice_slice (t : Text) {i j a b : Nat} (h : i + b ≤ j) :
    (t.slice i j).slice a b = t.slice (i + a) (i + b) := by
  apply List.ext_getElem?
  intro k
  rw [getElem?_slice, getElem?_slice, getElem?_slice, Nat.add_assoc]
  by_cases hk : a + k < b
  · rw [if_pos hk, if_pos (by omega), if_pos (by omega)]
  · rw [if_neg hk, if_neg (by omega)]

theorem slice_append (pre u post : Text) :
    (pre ++ u ++ post).slice pre.length (pre.length + u.length) = u := by
  rw [slice, List.append_assoc, List.take_length_add_append, List.take_left, List.drop_left]

theorem slice_length (t : Text) : t.slice 0 t.length = t := by
  rw [slice, List.take_length, List.drop_zero]

/-- What stands in the beginning of a text stands in the text. -/
theorem slice_of_slice_take {u : Text} {i limit : Nat}
    (h : slice (t.take limit) i (i + u.length) = u) : t.slice i (i + u.length) = u := by
  calc
    t.slice i (i + u.length) = u.slice 0 (0 + u.length) := by
      apply slice_eq_slice
      intro k hk
      have hchar := congrArg (·[k]?) h
      simp only [getElem?_slice, List.getElem?_take] at hchar
      rw [if_pos (by omega), List.getElem?_eq_getElem hk] at hchar
      split at hchar
      · rw [hchar, Nat.zero_add, List.getElem?_eq_getElem hk]
      · cases hchar
    _ = u := by rw [Nat.zero_add, slice_length]

/-- A slice that has all its characters ends inside the text. -/
theorem le_length_of_slice {i n : Nat} (hn : 0 < n) (h : (t.slice i (i + n)).length = n) :
    i + n ≤ t.length := by
  rw [length_slice] at h
  omega

/-! ## Occurrences -/

/-- The text `u` stands in `t` at an offset. -/
def OccursAt (u t : Text) (start : Nat) : Prop :=
  ∃ pre post, t = pre ++ u ++ post ∧ pre.length = start

namespace OccursAt

variable {u v : Text} {start : Nat}

theorem slice_eq (h : u.OccursAt t start) : t.slice start (start + u.length) = u := by
  rcases h with ⟨pre, post, rfl, rfl⟩
  exact slice_append pre u post

theorem le_length (h : u.OccursAt t start) : start + u.length ≤ t.length := by
  rcases h with ⟨pre, post, rfl, rfl⟩
  simp only [List.length_append]
  omega

theorem left (h : (u ++ v).OccursAt t start) : u.OccursAt t start := by
  rcases h with ⟨pre, post, rfl, rfl⟩
  exact ⟨pre, v ++ post, by simp, rfl⟩

theorem right (h : (u ++ v).OccursAt t start) : v.OccursAt t (start + u.length) := by
  rcases h with ⟨pre, post, rfl, rfl⟩
  exact ⟨pre ++ u, post, by simp, by simp⟩

/-- Every text stands in itself. -/
theorem refl (t : Text) : t.OccursAt t 0 :=
  ⟨[], [], by simp, rfl⟩

end OccursAt

theorem slice_of_find? {p : Text} {k : Nat} (h : find? p t = some k) :
    t.slice k (k + p.length) = p := by
  rcases Option.map_eq_some_iff.1 h with ⟨⟨a, b⟩, hab, rfl⟩
  rw [breakOn_eq_some hab]
  exact slice_append a p b

/-- What a search has found is there, no earlier than where it began. -/
theorem slice_of_findFrom? {p : Text} {start k : Nat} (h : findFrom? p start t = some k) :
    t.slice k (k + p.length) = p ∧ start ≤ k := by
  unfold findFrom? at h
  split at h
  · rcases Option.map_eq_some_iff.1 h with ⟨j, hj, rfl⟩
    have hslice := slice_of_find? hj
    refine ⟨?_, Nat.le_add_right _ _⟩
    rw [slice, List.take_drop, List.drop_drop] at hslice
    rw [slice, ← Nat.add_assoc] at *
    exact hslice
  · cases h

/-- What a search has found ends inside the text. -/
theorem le_length_of_findFrom? {p : Text} {start k : Nat} (h : findFrom? p start t = some k) :
    k + p.length ≤ t.length := by
  unfold findFrom? at h
  split at h
  · next hstart =>
      rcases Option.map_eq_some_iff.1 h with ⟨j, hj, rfl⟩
      rcases Option.map_eq_some_iff.1 hj with ⟨⟨a, b⟩, hab, rfl⟩
      have hlen := congrArg List.length (breakOn_eq_some hab)
      simp only [List.length_drop, List.length_append] at hlen
      simp only
      omega
  · cases h

/-! ## Fields -/

theorem splitAt_ne_nil (sep : Char) (t : Text) : splitAt sep t ≠ [] := by
  cases t with
  | nil => exact List.cons_ne_nil _ _
  | cons c t =>
      rw [splitAt]
      split
      · exact List.cons_ne_nil _ _
      · split <;> exact List.cons_ne_nil _ _

theorem joinWith_splitAt (sep : Char) (t : Text) : joinWith [sep] (splitAt sep t) = t := by
  induction t with
  | nil => rfl
  | cons c t ih =>
      rcases List.exists_cons_of_ne_nil (splitAt_ne_nil sep t) with ⟨f, fs, hf⟩
      rw [hf] at ih
      rw [splitAt, hf]
      by_cases hc : c = sep
      · rw [if_pos hc, joinWith, List.intercalate_cons_cons, List.nil_append, ← joinWith, ih, hc]
        rfl
      · rw [if_neg hc]
        cases fs with
        | nil => simpa [joinWith] using ih
        | cons g fs =>
            rw [joinWith, List.intercalate_cons_cons] at ih
            simp only [joinWith, List.intercalate_cons_cons, List.cons_append, ih]

theorem joinWith_cons_cons (sep : Char) (f g : Text) (fs : List Text) :
    joinWith [sep] (f :: g :: fs) = f ++ sep :: joinWith [sep] (g :: fs) := by
  rw [joinWith, List.intercalate_cons_cons, List.append_assoc]
  rfl

theorem notMem_of_mem_splitAt {sep : Char} {f : Text} (h : f ∈ splitAt sep t) : sep ∉ f := by
  induction t generalizing f with
  | nil =>
      rw [splitAt, List.mem_singleton] at h
      rw [h]
      exact List.not_mem_nil
  | cons c t ih =>
      rcases List.exists_cons_of_ne_nil (splitAt_ne_nil sep t) with ⟨g, gs, hg⟩
      rw [hg] at ih
      rw [splitAt, hg] at h
      by_cases hc : c = sep
      · rw [if_pos hc] at h
        rcases List.mem_cons.1 h with rfl | h
        · exact List.not_mem_nil
        · exact ih h
      · rw [if_neg hc] at h
        rcases List.mem_cons.1 h with rfl | h
        · rw [List.mem_cons, not_or]
          exact ⟨fun hs => hc hs.symm, ih List.mem_cons_self⟩
        · exact ih (List.mem_cons_of_mem _ h)

/-! ## Lines -/

/-- The text behind the last line feed. -/
def lastLine (t : Text) : Text :=
  (t.reverse.takeWhile (· ≠ '\n')).reverse

theorem lastLine_concat (t : Text) (c : Char) :
    lastLine (t ++ [c]) = if c = '\n' then [] else lastLine t ++ [c] := by
  rw [lastLine, List.reverse_append, List.reverse_singleton, List.singleton_append,
    List.takeWhile_cons]
  by_cases hc : c = '\n'
  · simp [hc]
  · simp [hc, lastLine]

/-- The text up to its last line feed and with it. -/
def throughLastBreak (t : Text) : Text :=
  (t.reverse.dropWhile (· ≠ '\n')).reverse

theorem length_throughLastBreak_add (t : Text) :
    t.throughLastBreak.length + t.lastLine.length = t.length := by
  have hlen :=
    congrArg List.length (List.takeWhile_append_dropWhile (p := (· ≠ '\n')) (l := t.reverse))
  rw [List.length_append, List.length_reverse] at hlen
  rw [throughLastBreak, lastLine, List.length_reverse, List.length_reverse, Nat.add_comm]
  exact hlen

end Text
end LiquidMarkdown
