import LiquidMarkdown.Proofs.Construct.Nesting
import LiquidMarkdown.Proofs.Construct.Offsets
import Mathlib.Data.Nat.Count

/-!
# Which tag ends a block

The search for the tag that ends a block walks over the tags with a depth and with the literal block
that hides what it meets.  This file says, without a walk, which tag it stops at.  It defines:

* `TagTables.Hidden` — a tag that lies in a literal block inside the block;
* `TagTables.shownCount` — how many tags of a name there are that are not hidden;
* `TagTables.EndsBlock` — the tag is one that can end a block of the given type;
* `FirstAt` — the first in a list among those at whose places a property holds;
* `TagTables.Reached` — what the depth and the literal block of the search stand for behind some
  tags, `Reached.step`, `Reached.endsBlock_iff`;
* `blockEndAt?_eq_firstAt` — the search finds the first tag that can end the block.
-/

namespace LiquidMarkdown

namespace TagTables

variable (T : TagTables) (X : Text) (names : List Text)

/-! ## Tags that can end a block -/

/-- The tag at a place is hidden in a block of the type `X`, where the tags have the given names: it
lies behind a tag that is not hidden, does not end `X` and opens a literal block, and no tag between
the two ends the literal block.  The first tag that ends a literal block is hidden with it. -/
def Hidden (j : Nat) : Prop :=
  ∃ i, ∃ _ : i < j, ¬ Hidden i ∧ ∃ v ∈ names[i]?, v ≠ Tag.endOf X ∧ T.isVerbatim v = true ∧
    ∀ m, m < j → i < m → names[m]? ≠ some (Tag.endOf v)
termination_by j

instance decidableHidden (j : Nat) : Decidable (T.Hidden X names j) :=
  have _cases : Decidable (∃ i, ∃ _ : i < j, ¬ T.Hidden X names i ∧ ∃ v ∈ names[i]?,
      v ≠ Tag.endOf X ∧ T.isVerbatim v = true ∧
        ∀ m, m < j → i < m → names[m]? ≠ some (Tag.endOf v)) :=
    @Nat.decidableExistsLT' j _ fun i _ =>
      have _before : Decidable (T.Hidden X names i) := decidableHidden i
      inferInstance
  decidable_of_iff _ (by rw [Hidden])
termination_by j

/-- How many of the first tags have a given name and are not hidden. -/
def shownCount (n : Text) (k : Nat) : Nat :=
  Nat.count (fun i => ¬ T.Hidden X names i ∧ names[i]? = some n) k

/-- The tag at a place is one that can end a block of the type `X`: it is named for that, and unless
the block is literal text, it is not hidden, and the tags that are not hidden up to it end one block
of the type more than they begin. -/
def EndsBlock (k : Nat) : Prop :=
  names[k]? = some (Tag.endOf X) ∧ (T.isVerbatim X = false → ¬ T.Hidden X names k ∧
    T.shownCount X names (Tag.endOf X) (k + 1) = T.shownCount X names X (k + 1) + 1)

instance (k : Nat) : Decidable (T.EndsBlock X names k) :=
  inferInstanceAs (Decidable (_ ∧ (_ → _ ∧ _)))

end TagTables

/-- The element is the first in a list of those at whose places a property holds. -/
def FirstAt {α : Type} (xs : List α) (P : Nat → Prop) (x : α) : Prop :=
  ∃ k, xs[k]? = some x ∧ P k ∧ ∀ j < k, ¬ P j

namespace FirstAt

variable {α : Type} {a x : α} {xs : List α} {P Q : Nat → Prop}

theorem not_nil : ¬ FirstAt [] P x := by
  rintro ⟨k, hk, _⟩
  cases hk

theorem cons_of_pos (h : P 0) : FirstAt (a :: xs) P x ↔ a = x := by
  constructor
  · rintro ⟨k, hk, _, hfirst⟩
    cases k with
    | zero => exact Option.some.inj hk
    | succ k => exact absurd h (hfirst 0 k.succ_pos)
  · rintro rfl
    exact ⟨0, rfl, h, fun j hj => absurd hj j.not_lt_zero⟩

theorem cons_of_neg (h : ¬ P 0) : FirstAt (a :: xs) P x ↔ FirstAt xs (fun k => P (k + 1)) x := by
  constructor
  · rintro ⟨k, hk, hP, hfirst⟩
    cases k with
    | zero => exact absurd hP h
    | succ k => exact ⟨k, hk, hP, fun j hj => hfirst (j + 1) (Nat.succ_lt_succ hj)⟩
  · rintro ⟨k, hk, hP, hfirst⟩
    refine ⟨k + 1, hk, hP, ?_⟩
    intro j hj
    cases j with
    | zero => exact h
    | succ j => exact hfirst j (Nat.lt_of_succ_lt_succ hj)

theorem congr (h : ∀ k, P k ↔ Q k) : FirstAt xs P x ↔ FirstAt xs Q x := by
  rw [show P = Q from funext fun k => propext (h k)]

/-- There is a first unless there is none. -/
theorem exists_of (hP : ∀ k, P k → k < xs.length) {k : Nat} (hk : P k) : ∃ x, FirstAt xs P x := by
  classical
  have hex : ∃ k, P k := ⟨k, hk⟩
  have hlt := hP _ (Nat.find_spec hex)
  exact ⟨xs[Nat.find hex], Nat.find hex, List.getElem?_eq_getElem hlt, Nat.find_spec hex,
    fun j hj => Nat.find_min hex hj⟩

end FirstAt

/-! ## What the search knows -/

namespace TagTables

variable {T : TagTables} {X v n : Text} {names : List Text} {k d d' : Nat}
  {hidden hidden' : Option Text}

/-- The tag at a place lies in a literal block of the type `v`. -/
def HiddenIn (T : TagTables) (X : Text) (names : List Text) (v : Text) (k : Nat) : Prop :=
  ∃ i < k, ¬ T.Hidden X names i ∧ names[i]? = some v ∧ v ≠ Tag.endOf X ∧ T.isVerbatim v = true ∧
    ∀ m < k, i < m → names[m]? ≠ some (Tag.endOf v)

theorem hidden_iff : T.Hidden X names k ↔ ∃ v, T.HiddenIn X names v k := by
  rw [Hidden]
  constructor
  · rintro ⟨i, hi, hshown, v, hv, hrest⟩
    exact ⟨v, i, hi, hshown, hv, hrest⟩
  · rintro ⟨v, i, hi, hshown, hv, hrest⟩
    exact ⟨i, hi, hshown, v, hv, hrest⟩

/-- A literal block goes on behind a tag that does not end it, and one begins behind a tag that
opens it. -/
theorem hiddenIn_succ (hk : names[k]? = some n) : T.HiddenIn X names v (k + 1) ↔
    T.HiddenIn X names v k ∧ n ≠ Tag.endOf v ∨
      ¬ T.Hidden X names k ∧ n = v ∧ v ≠ Tag.endOf X ∧ T.isVerbatim v = true := by
  constructor
  · rintro ⟨i, hi, hshown, hv, hne, hverbatim, hbetween⟩
    -- The literal block was opened before the last tag, or by it.
    rcases Nat.lt_succ_iff_lt_or_eq.1 hi with hlt | rfl
    · refine .inl ⟨⟨i, hlt, hshown, hv, hne, hverbatim, ?_⟩, ?_⟩
      · intro m hm hi
        exact hbetween m (Nat.lt_succ_of_lt hm) hi
      · rintro rfl
        exact hbetween k k.lt_succ_self hlt hk
    · exact .inr ⟨hshown, Option.some.inj (hk.symm.trans hv), hne, hverbatim⟩
  · rintro (⟨⟨i, hi, hshown, hv, hne, hverbatim, hbetween⟩, hend⟩ | ⟨hshown, rfl, hne, hverbatim⟩)
    · refine ⟨i, Nat.lt_succ_of_lt hi, hshown, hv, hne, hverbatim, ?_⟩
      intro m hm hi'
      rcases Nat.lt_succ_iff_lt_or_eq.1 hm with hlt | rfl
      · exact hbetween m hlt hi'
      · rw [hk]
        exact fun heq => hend (Option.some.inj heq)
    · refine ⟨k, k.lt_succ_self, hshown, hk, hne, hverbatim, ?_⟩
      intro m hm hi
      exact absurd hi (Nat.not_lt_of_le (Nat.le_of_lt_succ hm))

/-- A hidden tag does not count. -/
theorem shownCount_succ_of_hidden (h : T.Hidden X names k) (m : Text) :
    T.shownCount X names m (k + 1) = T.shownCount X names m k := by
  rw [shownCount, Nat.count_succ, if_neg fun hm => hm.1 h]
  rfl

/-- A tag that is not hidden counts for its name. -/
theorem shownCount_succ_of_shown (h : ¬ T.Hidden X names k) (hk : names[k]? = some n) (m : Text) :
    T.shownCount X names m (k + 1) = T.shownCount X names m k + if n = m then 1 else 0 := by
  rw [shownCount, Nat.count_succ, hk]
  simp only [h, not_false_eq_true, true_and, Option.some.injEq]
  rfl

/-- What the depth and the literal block of the search stand for behind the first `k` tags: the
literal block is the one in which the next tag lies, if it is hidden, and the depth is how many more
blocks of the type were begun than ended by tags that are not hidden. -/
structure Reached (T : TagTables) (X : Text) (names : List Text) (k d : Nat)
    (hidden : Option Text) : Prop where
  hidden_iff : ∀ v, hidden = some v ↔ T.HiddenIn X names v k
  depth_eq : T.shownCount X names (Tag.endOf X) k + d = T.shownCount X names X k

theorem reached_zero (T : TagTables) (X : Text) (names : List Text) :
    T.Reached X names 0 0 none where
  hidden_iff v := by
    constructor
    · intro h
      cases h
    · rintro ⟨i, hi, _⟩
      cases hi
  depth_eq := rfl

theorem Reached.hidden_of_some (h : T.Reached X names k d (some v)) : T.Hidden X names k :=
  TagTables.hidden_iff.2 ⟨v, (h.hidden_iff v).1 rfl⟩

theorem Reached.not_hidden_of_none (h : T.Reached X names k d none) : ¬ T.Hidden X names k := by
  intro hhidden
  rcases TagTables.hidden_iff.1 hhidden with ⟨v, hv⟩
  cases (h.hidden_iff v).2 hv

/-- Behind a hidden tag the same literal block goes on, unless the tag ends it. -/
theorem Reached.step_hidden (h : T.Reached X names k d (some v)) (hk : names[k]? = some n) :
    T.Reached X names (k + 1) d (T.hide (some v) n) where
  hidden_iff w := by
    have hhidden := h.hidden_of_some
    rw [hiddenIn_succ hk, ← h.hidden_iff]
    constructor
    · intro hw
      by_cases hend : n = Tag.endOf v
      · rw [hide, if_pos hend] at hw
        cases hw
      · rw [hide, if_neg hend] at hw
        cases hw
        exact .inl ⟨rfl, hend⟩
    · rintro (⟨hw, hend⟩ | ⟨hshown, _⟩)
      · cases hw
        rw [hide, if_neg hend]
      · exact absurd hhidden hshown
  depth_eq := by
    rw [shownCount_succ_of_hidden h.hidden_of_some, shownCount_succ_of_hidden h.hidden_of_some]
    exact h.depth_eq

/-- Behind a tag that is not hidden a literal block goes on only if the tag opens it. -/
theorem Reached.hiddenIn_succ_iff (h : T.Reached X names k d none) (hk : names[k]? = some n) :
    T.HiddenIn X names v (k + 1) ↔ n = v ∧ v ≠ Tag.endOf X ∧ T.isVerbatim v = true := by
  rw [hiddenIn_succ hk, ← h.hidden_iff]
  constructor
  · rintro (⟨hv, _⟩ | ⟨_, hopens⟩)
    · cases hv
    · exact hopens
  · intro hopens
    exact .inr ⟨h.not_hidden_of_none, hopens⟩

/-- Where no literal block hides the tags, one begins behind a tag that opens it. -/
theorem hide_none_eq_some : T.hide none n = some v ↔ n = v ∧ T.isVerbatim v = true := by
  rw [hide]
  by_cases hverbatim : T.isVerbatim n = true
  · rw [if_pos hverbatim, Option.some.injEq]
    constructor
    · rintro rfl
      exact ⟨rfl, hverbatim⟩
    · exact And.left
  · rw [if_neg hverbatim]
    constructor
    · intro hv
      cases hv
    · rintro ⟨rfl, hv⟩
      exact absurd hv hverbatim

/-- One step of the search keeps the meaning of what it knows. -/
theorem Reached.step (hX : T.isVerbatim X = false) (h : T.Reached X names k d hidden)
    (hk : names[k]? = some n) (hpass : T.pass X d hidden n = some (d', hidden')) :
    T.Reached X names (k + 1) d' hidden' := by
  cases hidden with
  | some v =>
      cases hpass
      exact h.step_hidden hk
  | none =>
      have hcount := shownCount_succ_of_shown h.not_hidden_of_none hk
      have hdepth := h.depth_eq
      unfold pass at hpass
      dsimp only at hpass
      by_cases hend : n = Tag.endOf X
      · -- A block of the type ends, and its end opens nothing.
        rw [if_pos hend] at hpass
        cases d with
        | zero => cases hpass
        | succ d =>
            cases hpass
            refine ⟨?_, ?_⟩
            · intro v
              rw [h.hiddenIn_succ_iff hk]
              constructor
              · intro hv
                cases hv
              · rintro ⟨rfl, hne, _⟩
                exact absurd hend hne
            · rw [hcount, hcount, if_pos hend, if_neg (by rw [hend]; exact (Tag.ne_endOf X).symm)]
              omega
      · -- Any other tag opens a literal block if it is named for one, and `X` names none.
        have hnext : hidden' = T.hide none n ∧ d' = d + if n = X then 1 else 0 := by
          rw [if_neg hend] at hpass
          by_cases hopen : n = X
          · rw [if_pos hopen] at hpass
            cases hpass
            refine ⟨?_, by rw [if_pos hopen]⟩
            rw [hide, hopen, hX]
            rfl
          · rw [if_neg hopen] at hpass
            cases hpass
            exact ⟨rfl, by rw [if_neg hopen, Nat.add_zero]⟩
        rcases hnext with ⟨rfl, rfl⟩
        refine ⟨?_, ?_⟩
        · intro v
          rw [h.hiddenIn_succ_iff hk, hide_none_eq_some]
          constructor
          · rintro ⟨rfl, hverbatim⟩
            exact ⟨rfl, hend, hverbatim⟩
          · rintro ⟨hv, _, hverbatim⟩
            exact ⟨hv, hverbatim⟩
        · rw [hcount, hcount, if_neg hend]
          omega

/-- The search stops at a tag that can end the block, and at no other. -/
theorem Reached.endsBlock_iff (hX : T.isVerbatim X = false) (h : T.Reached X names k d hidden)
    (hk : names[k]? = some n) : T.EndsBlock X names k ↔ T.pass X d hidden n = none := by
  have hdepth := h.depth_eq
  constructor
  · rintro ⟨hname, hrest⟩
    rcases hrest hX with ⟨hshown, hbalance⟩
    -- As many blocks of the type were ended as begun before the tag, so that the depth is zero.
    cases Option.some.inj (hk.symm.trans hname)
    have hcount := shownCount_succ_of_shown hshown hk
    rw [hcount, hcount, if_pos rfl, if_neg (Tag.ne_endOf X).symm] at hbalance
    have hd : d = 0 := by omega
    cases hidden with
    | some v => exact absurd h.hidden_of_some hshown
    | none => simp [pass, hd]
  · intro hpass
    rcases eq_of_pass_eq_none hpass with ⟨rfl, rfl, rfl⟩
    have hshown := h.not_hidden_of_none
    have hcount := shownCount_succ_of_shown hshown hk
    refine ⟨hk, fun _ => ⟨hshown, ?_⟩⟩
    rw [hcount, hcount, if_pos rfl, if_neg (Tag.ne_endOf X).symm]
    omega

end TagTables

/-! ## The search -/

/-- The offsets of the tag that ends a body, where the body begins at the offset `start`. -/
def BlockEnd.offsetsFrom (start : Nat) (e : BlockEnd) : Nat × Nat :=
  (start + e.body.length, start + e.body.length + 2 + e.content.length)

theorem BlockEnd.offsetsFrom_after (start : Nat) (s : TagSpan) (e : BlockEnd) :
    (e.after s).offsetsFrom start =
      e.offsetsFrom (start + s.before.length + 2 + s.content.length + 2) := by
  have hlen : start + (e.after s).body.length =
      start + s.before.length + 2 + s.content.length + 2 + e.body.length := by
    simp only [after, TagSpan.raw, Delimiters.wrap, Delimiters.tag, List.length_append,
      List.length_cons, List.length_nil]
    omega
  rw [offsetsFrom, offsetsFrom, hlen]
  rfl

/-- The tag that is found behind another one is found from there on. -/
theorem BlockEnd.map_offsetsFrom_after (start : Nat) (s : TagSpan) (r : Option BlockEnd) :
    (r.map (BlockEnd.after s)).map (BlockEnd.offsetsFrom start) =
      r.map (BlockEnd.offsetsFrom (start + s.before.length + 2 + s.content.length + 2)) := by
  rw [Option.map_map]
  congr 1
  funext e
  exact e.offsetsFrom_after start s

variable {T : TagTables} {X t : Text} {start : Nat}

/-- The search for a name finds the first tag that has it. -/
theorem firstNamed?_eq_firstAt (name : Text) (spans : List TagSpan) (start : Nat)
    (tag : Nat × Nat) :
    (firstNamed? name spans).map (BlockEnd.offsetsFrom start) = some tag ↔
      FirstAt (offsetsOf start spans) (fun k => (spans.map TagSpan.name)[k]? = some name) tag := by
  induction spans generalizing start with
  | nil => exact iff_of_false (Option.some_ne_none tag).symm FirstAt.not_nil
  | cons s ss ih =>
      rw [firstNamed?, offsetsOf]
      by_cases hname : s.name = name
      · have hhere : ((s :: ss).map TagSpan.name)[0]? = some name := congrArg some hname
        rw [if_pos hname, FirstAt.cons_of_pos hhere]
        exact Option.some_inj
      · have hhere : ((s :: ss).map TagSpan.name)[0]? ≠ some name :=
          fun heq => hname (Option.some.inj heq)
        rw [if_neg hname, FirstAt.cons_of_neg hhere, BlockEnd.map_offsetsFrom_after]
        exact ih _

/-- The search for the end of a block finds the first tag that can end it, among those that are
still to come. -/
theorem closing?_eq_firstAt (hX : T.isVerbatim X = false) {names : List Text} {k d : Nat}
    {hidden : Option Text} {spans : List TagSpan} (h : T.Reached X names k d hidden)
    (hspans : names.drop k = spans.map TagSpan.name) (start : Nat) (tag : Nat × Nat) :
    (closing? T X d hidden spans).map (BlockEnd.offsetsFrom start) = some tag ↔
      FirstAt (offsetsOf start spans) (fun j => T.EndsBlock X names (k + j)) tag := by
  -- The search is a recursion on the tags; what it knows is what the tags before it make of it.
  induction spans generalizing k d hidden start with
  | nil => exact iff_of_false (Option.some_ne_none tag).symm FirstAt.not_nil
  | cons s ss ih =>
      have hk : names[k]? = some s.name := by
        have hhead := congrArg List.head? hspans
        rwa [List.head?_drop] at hhead
      have hrest : names.drop (k + 1) = ss.map TagSpan.name := by
        rw [← List.tail_drop, hspans]
        rfl
      have hends := h.endsBlock_iff hX hk
      rw [offsetsOf]
      cases hpass : T.pass X d hidden s.name with
      | none =>
          rw [closing?_cons_of_pass_eq_none hpass, FirstAt.cons_of_pos (hends.2 hpass)]
          exact Option.some_inj
      | some r =>
          have hstep : T.Reached X names (k + 1) r.1 r.2 := h.step hX hk hpass
          have hgoes : ¬ T.EndsBlock X names (k + 0) := by
            intro hc
            rw [hends.1 hc] at hpass
            cases hpass
          rw [closing?_cons_of_pass_eq_some hpass, FirstAt.cons_of_neg hgoes,
            BlockEnd.map_offsetsFrom_after, ih hstep hrest]
          apply FirstAt.congr
          intro j
          rw [Nat.add_right_comm, Nat.add_assoc]

/-- From the text behind an opening tag, the search finds the first tag that can end the block. -/
theorem blockEnd?_eq_firstAt (T : TagTables) (X t : Text) (start : Nat) (tag : Nat × Nat) :
    (blockEnd? T X t).map (BlockEnd.offsetsFrom start) = some tag ↔
      FirstAt (offsetsOf start (tagSpans t)) (T.EndsBlock X (tagNames t)) tag := by
  unfold blockEnd?
  by_cases hX : T.isVerbatim X = true
  · rw [if_pos hX, firstNamed?_eq_firstAt]
    apply FirstAt.congr
    intro k
    constructor
    · intro hname
      exact ⟨hname, fun hfalse => absurd (hX.symm.trans hfalse) Bool.true_eq_false_eq_False⟩
    · exact And.left
  · have hX' : T.isVerbatim X = false := Bool.eq_false_iff.2 hX
    rw [if_neg hX, closing?_eq_firstAt hX' (T.reached_zero X (tagNames t)) rfl]
    apply FirstAt.congr
    intro k
    rw [Nat.zero_add]

/-! ## Offsets -/

/-- A tag that can end a block is one of the tags. -/
theorem TagTables.EndsBlock.lt_length {names : List Text} {k : Nat} (h : T.EndsBlock X names k) :
    k < names.length := by
  rcases List.getElem?_eq_some_iff.1 h.1 with ⟨hlt, _⟩
  exact hlt

theorem blockEndAt?_eq_map (h : start ≤ t.length) :
    blockEndAt? T X t start =
      (blockEnd? T X (t.drop start)).map (BlockEnd.offsetsFrom start) := by
  rw [blockEndAt?, if_pos h]
  rfl

/-- The tags of a text from an offset on are determined by the text, and among them the search finds
the first that can end the block; the search finds none only if there is none.  What it finds are
the offsets of the two delimiters of a tag behind the place where it started. -/
theorem blockEndAt?_eq_firstAt (T : TagTables) (X t : Text) (start : Nat) :
    ∃ tags, (∀ tags', SuccessiveTags t start tags' ↔ tags' = tags) ∧
      (∀ tag, blockEndAt? T X t start = some tag ↔
        FirstAt tags (T.EndsBlock X (tags.map t.tagNameAt)) tag) ∧
      (blockEndAt? T X t start = none ↔ ∀ k, ¬ T.EndsBlock X (tags.map t.tagNameAt) k) ∧
      ∀ o c, blockEndAt? T X t start = some (o, c) → start ≤ o ∧ o + 2 ≤ c ∧
        t.slice o (o + 2) = Delimiters.tag.opening ∧
          t.slice c (c + 2) = Delimiters.tag.closing := by
  have htags : ∃ tags, SuccessiveTags t start tags ∧ ∀ tag, blockEndAt? T X t start = some tag ↔
      FirstAt tags (T.EndsBlock X (tags.map t.tagNameAt)) tag := by
    by_cases hstart : start ≤ t.length
    · rcases successiveTags_offsetsOf hstart with ⟨htags, hnames⟩
      refine ⟨_, htags, ?_⟩
      intro tag
      rw [hnames, blockEndAt?_eq_map hstart]
      exact blockEnd?_eq_firstAt T X (t.drop start) start tag
    · refine ⟨[], successiveTags_of_length_lt (Nat.lt_of_not_le hstart), ?_⟩
      intro tag
      rw [blockEndAt?, if_neg hstart]
      exact iff_of_false (Option.some_ne_none tag).symm FirstAt.not_nil
  -- The tags are determined by the text, so the rest is about the list that was found.
  rcases htags with ⟨tags, htags, hfirst⟩
  refine ⟨tags, ?_, hfirst, ?_, ?_⟩
  · intro tags'
    constructor
    · intro htags'
      exact htags'.unique htags
    · rintro rfl
      exact htags
  · constructor
    · intro hnone k hk
      have hlt (j : Nat) (hj : T.EndsBlock X (tags.map t.tagNameAt) j) : j < tags.length := by
        have hlen := hj.lt_length
        rwa [List.length_map] at hlen
      rcases FirstAt.exists_of hlt hk with ⟨tag, htag⟩
      rw [(hfirst tag).2 htag] at hnone
      cases hnone
    · intro hends
      cases hresult : blockEndAt? T X t start with
      | none => rfl
      | some tag =>
          rcases (hfirst tag).1 hresult with ⟨k, _, hk, _⟩
          exact absurd hk (hends k)
  · intro o c hresult
    rcases (hfirst (o, c)).1 hresult with ⟨k, hk, _⟩
    rcases htags.of_mem (List.mem_of_getElem? hk) with ⟨ho, hc, hopening, hclosing⟩
    exact ⟨ho, hc, hopening.slice_eq, hclosing.slice_eq⟩

/-- An end that is hidden in a literal block does not end a block. -/
example : TagTables.standard.EndsBlock "if" ["raw", "endif", "endraw", "endif"] 3 ∧
    ¬ TagTables.standard.EndsBlock "if" ["raw", "endif", "endraw", "endif"] 1 := by
  decide +kernel

end LiquidMarkdown
