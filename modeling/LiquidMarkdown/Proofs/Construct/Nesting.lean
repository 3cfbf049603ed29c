import LiquidMarkdown.Proofs.Construct.Scanning
import LiquidMarkdown.Proofs.Pairing.Brackets
import LiquidMarkdown.Proofs.Tag.Roles

/-!
# What stands between the tags of a block

The search for the tag that closes a block counts the tags of the block's name, and passes over what
a literal block hides.  This file defines:

* `TagTables.hide`, `TagTables.hideAll` — the literal block that hides what follows;
* `TagTables.shown` — the names that no literal block hides;
* `nameBrackets` — the names as brackets of one block type;
* `Brackets.Descends` — a word that closes some brackets more than it opens;
* `TagTables.pass` — one step of the search, and `TagTables.of_pass_eq_some`, what it can do;
* `ClosesAt`, `exists_of_closing?` — the tags before the one that closes a block are balanced;
* `exists_of_firstNamed?` — no tag before the first of a name has this name.
-/

namespace LiquidMarkdown

/-! ## Hidden tags -/

namespace TagTables

/-- The literal block that hides what follows a tag, where `hidden` hides the tag itself. -/
def hide (T : TagTables) (hidden : Option Text) (name : Text) : Option Text :=
  match hidden with
  | none => if T.isVerbatim name then some name else none
  | some v => if name = Tag.endOf v then none else some v

/-- The literal block that hides what follows some tags. -/
def hideAll (T : TagTables) (hidden : Option Text) (names : List Text) : Option Text :=
  names.foldl T.hide hidden

/-- The names that no literal block hides; the tag that ends a literal block is not hidden. -/
def shown (T : TagTables) : Option Text → List Text → List Text
  | _, [] => []
  | none, n :: ns => n :: shown T (T.hide none n) ns
  | some v, n :: ns =>
      if n = Tag.endOf v then n :: shown T none ns else shown T (some v) ns

variable {T : TagTables} {hidden : Option Text} {v : Text} {ms ns : List Text}

theorem shown_cons {n : Text} (h : ∀ v ∈ hidden, n = Tag.endOf v) (ns : List Text) :
    T.shown hidden (n :: ns) = n :: T.shown (T.hide hidden n) ns := by
  cases hidden with
  | none => rfl
  | some v => simp [shown, hide, h v rfl]

theorem shown_cons_of_hidden {n : Text} (hv : v ∈ hidden) (hn : n ≠ Tag.endOf v) (ns : List Text) :
    T.shown hidden (n :: ns) = T.shown (T.hide hidden n) ns := by
  cases hv
  simp [shown, hide, hn]

/-- Only a literal block hides anything. -/
theorem isVerbatim_of_hide (h : ∀ v ∈ hidden, T.isVerbatim v = true) (n : Text) :
    ∀ v ∈ T.hide hidden n, T.isVerbatim v = true := by
  intro v hv
  cases hidden with
  | none =>
      simp only [hide, Option.mem_def] at hv
      split at hv
      · next hn =>
          cases hv
          exact hn
      · cases hv
  | some u =>
      simp only [hide, Option.mem_def] at hv
      split at hv
      · cases hv
      · exact h v hv

theorem hideAll_append (hidden : Option Text) (ms ns : List Text) :
    T.hideAll hidden (ms ++ ns) = T.hideAll (T.hideAll hidden ms) ns :=
  List.foldl_append

theorem shown_append (hidden : Option Text) (ms ns : List Text) :
    T.shown hidden (ms ++ ns) = T.shown hidden ms ++ T.shown (T.hideAll hidden ms) ns := by
  induction ms generalizing hidden with
  | nil => rfl
  | cons m ms ih =>
      -- Each name is shown or hidden by what was before it.
      cases hidden with
      | none =>
          have hrest := ih (T.hide none m)
          simp only [List.cons_append, shown, hrest]
          rfl
      | some v =>
          by_cases hm : m = Tag.endOf v
          · have hrest := ih none
            simp [shown, hm, hrest, hideAll, hide]
          · have hrest := ih (some v)
            simp [shown, hm, hrest, hideAll, hide]

/-- What a literal block hides up to its end is not shown. -/
theorem shown_some_of_notMem (h : Tag.endOf v ∉ ms) : T.shown (some v) ms = [] := by
  induction ms with
  | nil => rfl
  | cons m ms ih =>
      rw [List.mem_cons, not_or] at h
      have hm : m ≠ Tag.endOf v := fun hc => h.1 hc.symm
      simp [shown, hm, ih h.2]

theorem hideAll_some_of_notMem (h : Tag.endOf v ∉ ms) : T.hideAll (some v) ms = some v := by
  induction ms with
  | nil => rfl
  | cons m ms ih =>
      rw [List.mem_cons, not_or] at h
      have hm : m ≠ Tag.endOf v := fun hc => h.1 hc.symm
      simp only [hideAll, List.foldl_cons, hide, hm, if_false]
      exact ih h.2

/-- Every literal block is a block. -/
def LiteralBlocks (T : TagTables) : Prop :=
  ∀ v, T.isVerbatim v = true → T.isBlockStart v = true

theorem literalBlocks_standard : standard.LiteralBlocks := by
  intro v hv
  have hmem : v ∈ standardVerbatimTags := of_decide_eq_true hv
  have hblocks : ∀ w ∈ standardVerbatimTags, standard.isBlockStart w = true := by decide
  exact hblocks v hmem

theorem LiteralBlocks.isVerbatim_endOf (h : T.LiteralBlocks) (X : Text) :
    T.isVerbatim (Tag.endOf X) = false := by
  apply Bool.eq_false_iff.2
  intro hv
  have hstart := h _ hv
  rw [T.isBlockStart_endOf] at hstart
  cases hstart

end TagTables

/-! ## Names as brackets -/

/-- The names as brackets of one block type. -/
def nameBrackets (X : Text) : Brackets Text where
  opens n := n = X
  closes n := n = Tag.endOf X
  disjoint n h := by
    have hn : n = X := of_decide_eq_true h
    simp [hn, Tag.ne_endOf]

namespace Brackets

variable {α : Type} {b : Brackets α} {d d' : Nat} {w : List α} {a : α}

/-- The word closes `d` brackets more than it opens, and none of its beginnings closes more of
them. -/
def Descends (b : Brackets α) (d : Nat) (w : List α) : Prop :=
  w.countP b.opens + d = w.countP b.closes ∧
    ∀ u, u <+: w → u.countP b.closes ≤ u.countP b.opens + d

theorem descends_zero : b.Descends 0 w ↔ b.Balanced w :=
  Iff.rfl

/-- A letter changes how many brackets are open by what it is. -/
inductive Changes (b : Brackets α) (a : α) : Nat → Nat → Prop
  | opens {d : Nat} : b.opens a = true → Changes b a d (d + 1)
  | closes {d : Nat} : b.closes a = true → Changes b a (d + 1) d
  | neither {d : Nat} : b.opens a = false → b.closes a = false → Changes b a d d

theorem Changes.countP_cons (h : b.Changes a d d') (w : List α) :
    (a :: w).countP b.closes + (w.countP b.opens + d') =
      (a :: w).countP b.opens + d + w.countP b.closes := by
  cases h with
  | opens ho =>
      have hc : b.closes a = false := b.disjoint a ho
      simp only [List.countP_cons, ho, hc, if_true, Bool.false_eq_true, if_false]
      omega
  | closes hc =>
      have ho : b.opens a = false := by
        apply Bool.eq_false_iff.2
        intro ho
        rw [b.disjoint a ho] at hc
        cases hc
      simp only [List.countP_cons, ho, hc, if_true, Bool.false_eq_true, if_false]
      omega
  | neither ho hc =>
      simp only [List.countP_cons, ho, hc, Bool.false_eq_true, if_false]
      omega

theorem Changes.descends_cons (h : b.Changes a d d') (hw : b.Descends d' w) :
    b.Descends d (a :: w) := by
  constructor
  · have hall := hw.1
    have hcount := h.countP_cons w
    omega
  · intro u hu
    rcases List.prefix_cons_iff.1 hu with rfl | ⟨v, rfl, hv⟩
    · simp
    · have hle := hw.2 v hv
      have hcount := h.countP_cons v
      omega

end Brackets

/-! ## Closing tags -/

variable {T : TagTables} {X : Text} {spans : List TagSpan} {e : BlockEnd}

/-- What stands before a tag that ends a block, and that tag. -/
structure EndsAt (spans : List TagSpan) (e : BlockEnd) (pre : List TagSpan) (s : TagSpan)
    (post : List TagSpan) : Prop where
  spans_eq : spans = pre ++ s :: post
  body_eq : e.body = joined pre ++ s.before
  content_eq : e.content = s.content
  rest_eq : e.rest = s.rest

theorem EndsAt.ofSpan (s : TagSpan) (ss : List TagSpan) : EndsAt (s :: ss) (.ofSpan s) [] s ss where
  spans_eq := rfl
  body_eq := rfl
  content_eq := rfl
  rest_eq := rfl

theorem EndsAt.after {ss pre post : List TagSpan} {s : TagSpan} (h : EndsAt ss e pre s post)
    (s₀ : TagSpan) : EndsAt (s₀ :: ss) (.after s₀ e) (s₀ :: pre) s post where
  spans_eq := by rw [h.spans_eq, List.cons_append]
  body_eq := by simp [BlockEnd.after, joined, h.body_eq]
  content_eq := h.content_eq
  rest_eq := h.rest_eq

/-- Where the tag that closes a block of the type `X` stands, if the search starts inside `d` more
blocks of this type, and inside the literal block `hidden`: the tags before it that are not hidden
close as many blocks of the type as they open and as were open, and nothing is hidden behind them.
-/
structure ClosesAt (T : TagTables) (X : Text) (d : Nat) (hidden : Option Text)
    (spans : List TagSpan) (e : BlockEnd) (pre : List TagSpan) (s : TagSpan)
    (post : List TagSpan) : Prop extends EndsAt spans e pre s post where
  name_eq : s.name = Tag.endOf X
  hideAll_eq : T.hideAll hidden (pre.map TagSpan.name) = none
  descends : (nameBrackets X).Descends d (T.shown hidden (pre.map TagSpan.name))

namespace ClosesAt

variable {d d' : Nat} {hidden : Option Text} {v : Text} {ss pre post : List TagSpan}
  {s s₀ : TagSpan}

/-- A tag more that a literal block hides. -/
theorem afterHidden (h : ClosesAt T X d (T.hide hidden s₀.name) ss e pre s post) (hv : v ∈ hidden)
    (hs : s₀.name ≠ Tag.endOf v) :
    ClosesAt T X d hidden (s₀ :: ss) (.after s₀ e) (s₀ :: pre) s post where
  toEndsAt := h.toEndsAt.after s₀
  name_eq := h.name_eq
  hideAll_eq := h.hideAll_eq
  descends := by
    rw [List.map_cons, TagTables.shown_cons_of_hidden hv hs]
    exact h.descends

/-- A tag more that no literal block hides. -/
theorem afterShown (h : ClosesAt T X d' (T.hide hidden s₀.name) ss e pre s post)
    (hs : ∀ v ∈ hidden, s₀.name = Tag.endOf v) (hd : (nameBrackets X).Changes s₀.name d d') :
    ClosesAt T X d hidden (s₀ :: ss) (.after s₀ e) (s₀ :: pre) s post where
  toEndsAt := h.toEndsAt.after s₀
  name_eq := h.name_eq
  hideAll_eq := h.hideAll_eq
  descends := by
    rw [List.map_cons, TagTables.shown_cons hs]
    exact hd.descends_cons h.descends

end ClosesAt

/-! ## One step of the search -/

/-- How deep the search for the end of a block is behind a tag, and what hides the tags there,
unless the tag is the end. -/
def TagTables.pass (T : TagTables) (X : Text) (depth : Nat) (hidden : Option Text) (name : Text) :
    Option (Nat × Option Text) :=
  match hidden with
  | some v => some (depth, T.hide (some v) name)
  | none =>
      if name = Tag.endOf X then
        match depth with
        | 0 => none
        | k + 1 => some (k, none)
      else if name = X then some (depth + 1, none)
      else some (depth, T.hide none name)

section

variable {d d' : Nat} {hidden hidden' : Option Text} {n : Text} {s : TagSpan} {ss : List TagSpan}

theorem closing?_cons : closing? T X d hidden (s :: ss) =
    match T.pass X d hidden s.name with
    | none => some (.ofSpan s)
    | some (d', hidden') => (closing? T X d' hidden' ss).map (.after s) := by
  unfold TagTables.pass
  cases hidden with
  | some v => rfl
  | none =>
      simp only [closing?]
      by_cases hend : s.name = Tag.endOf X
      · rw [if_pos hend, if_pos hend]
        cases d <;> rfl
      · rw [if_neg hend, if_neg hend]
        by_cases hopen : s.name = X
        · rw [if_pos hopen, if_pos hopen]
        · rw [if_neg hopen, if_neg hopen]
          by_cases hv : T.isVerbatim s.name = true
          · simp only [TagTables.hide, if_pos hv]
          · simp only [TagTables.hide, if_neg hv]

theorem closing?_cons_of_pass_eq_none (h : T.pass X d hidden s.name = none) :
    closing? T X d hidden (s :: ss) = some (.ofSpan s) := by
  rw [closing?_cons, h]

theorem closing?_cons_of_pass_eq_some (h : T.pass X d hidden s.name = some (d', hidden')) :
    closing? T X d hidden (s :: ss) = (closing? T X d' hidden' ss).map (.after s) := by
  rw [closing?_cons, h]

/-- Only a tag of the right name ends the search, and only where no block inside is open. -/
theorem TagTables.eq_of_pass_eq_none (h : T.pass X d hidden n = none) :
    hidden = none ∧ d = 0 ∧ n = Tag.endOf X := by
  unfold pass at h
  split at h
  · cases h
  · split at h
    · next hend =>
        split at h
        · exact ⟨rfl, rfl, hend⟩
        · cases h
    · split at h <;> cases h

/-- A tag that the search passes over is hidden, or counts for what it is: it opens a block of the
type, closes one, or neither. -/
theorem TagTables.of_pass_eq_some (hT : T.LiteralBlocks) (hX : T.isBlockStart X = true)
    (hXv : T.isVerbatim X = false) (hhidden : ∀ v ∈ hidden, T.isVerbatim v = true)
    (h : T.pass X d hidden n = some (d', hidden')) :
    hidden' = T.hide hidden n ∧
      ((d' = d ∧ ∃ v ∈ hidden, n ≠ Tag.endOf v) ∨
        ((∀ v ∈ hidden, n = Tag.endOf v) ∧ (nameBrackets X).Changes n d d')) := by
  -- What is neither of the type nor closes it is no bracket.
  have hneither (hopen : n ≠ X) (hend : n ≠ Tag.endOf X) : (nameBrackets X).Changes n d d :=
    .neither (decide_eq_false hopen) (decide_eq_false hend)
  unfold pass at h
  cases hidden with
  | some v =>
      cases h
      refine ⟨rfl, ?_⟩
      by_cases hend : n = Tag.endOf v
      · -- The end of a literal block is no tag of the type that is searched for.
        have hopen : n ≠ X := by
          rintro rfl
          rw [hend, T.isBlockStart_endOf] at hX
          cases hX
        have hend' : n ≠ Tag.endOf X := by
          intro hc
          have hv := hhidden v rfl
          rw [Tag.endOf_injective (hend.symm.trans hc), hXv] at hv
          cases hv
        exact .inr ⟨fun w hw => by cases hw; exact hend, hneither hopen hend'⟩
      · exact .inl ⟨rfl, v, rfl, hend⟩
  | none =>
      have hshown : ∀ v ∈ (none : Option Text), n = Tag.endOf v := nofun
      dsimp only at h
      split at h
      · next hend =>
          have hhide : T.hide none n = none := by simp [hide, hend, hT.isVerbatim_endOf]
          cases d with
          | zero => cases h
          | succ d =>
              cases h
              exact ⟨hhide.symm, .inr ⟨hshown, .closes (decide_eq_true hend)⟩⟩
      · next hend =>
          split at h
          · next hopen =>
              have hhide : T.hide none n = none := by simp [hide, hopen, hXv]
              cases h
              exact ⟨hhide.symm, .inr ⟨hshown, .opens (decide_eq_true hopen)⟩⟩
          · next hopen =>
              cases h
              exact ⟨rfl, .inr ⟨hshown, hneither hopen hend⟩⟩

end

/-- The tag that closes a block is found where the tags before it are balanced. -/
theorem exists_of_closing? (hT : T.LiteralBlocks) (hX : T.isBlockStart X = true)
    (hXv : T.isVerbatim X = false) {d : Nat} {hidden : Option Text}
    (hhidden : ∀ v ∈ hidden, T.isVerbatim v = true)
    (h : closing? T X d hidden spans = some e) :
    ∃ pre s post, ClosesAt T X d hidden spans e pre s post := by
  -- The search is a recursion on the tags, whose depth and literal block change on the way.
  induction spans generalizing d hidden e with
  | nil => cases h
  | cons s ss ih =>
      cases hpass : T.pass X d hidden s.name with
      | none =>
          rw [closing?_cons_of_pass_eq_none hpass] at h
          cases h
          rcases TagTables.eq_of_pass_eq_none hpass with ⟨rfl, rfl, hname⟩
          exact ⟨[], s, ss, .ofSpan s ss, hname, rfl, Brackets.descends_zero.2 .nil⟩
      | some r =>
          rcases r with ⟨d', hidden'⟩
          rw [closing?_cons_of_pass_eq_some hpass] at h
          rcases Option.map_eq_some_iff.1 h with ⟨e', he', rfl⟩
          rcases TagTables.of_pass_eq_some hT hX hXv hhidden hpass with ⟨rfl, hcounts⟩
          rcases ih (TagTables.isVerbatim_of_hide hhidden s.name) he' with ⟨pre, s', post, hat⟩
          refine ⟨s :: pre, s', post, ?_⟩
          rcases hcounts with ⟨rfl, v, hv, hs⟩ | ⟨hs, hchanges⟩
          · exact hat.afterHidden hv hs
          · exact hat.afterShown hs hchanges

/-- No tag before the first of a name has this name. -/
theorem exists_of_firstNamed? {name : Text} (h : firstNamed? name spans = some e) :
    ∃ pre s post, EndsAt spans e pre s post ∧ s.name = name ∧
      name ∉ pre.map TagSpan.name := by
  induction spans generalizing e with
  | nil => cases h
  | cons s ss ih =>
      simp only [firstNamed?] at h
      by_cases hs : s.name = name
      · rw [if_pos hs] at h
        cases h
        exact ⟨[], s, ss, .ofSpan s ss, hs, List.not_mem_nil⟩
      · rw [if_neg hs] at h
        rcases Option.map_eq_some_iff.1 h with ⟨e', he', rfl⟩
        rcases ih he' with ⟨pre, s', post, hat, hname, hnot⟩
        refine ⟨s :: pre, s', post, hat.after s, hname, ?_⟩
        rw [List.map_cons, List.mem_cons, not_or]
        exact ⟨fun hc => hs hc.symm, hnot⟩

/-- A tag of a name is found if there is one. -/
theorem exists_firstNamed? {name : Text} (h : name ∈ spans.map TagSpan.name) :
    ∃ e, firstNamed? name spans = some e := by
  induction spans with
  | nil => cases h
  | cons s ss ih =>
      simp only [firstNamed?]
      by_cases hs : s.name = name
      · exact ⟨_, if_pos hs⟩
      · rw [List.map_cons, List.mem_cons] at h
        rcases h with h | h
        · exact absurd h.symm hs
        · rcases ih h with ⟨e, he⟩
          exact ⟨_, by rw [if_neg hs, he]; rfl⟩

end LiquidMarkdown
