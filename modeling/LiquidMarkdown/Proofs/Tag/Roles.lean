import LiquidMarkdown.Tag.Tables

/-!
# The roles of a name

A name is tested for three roles, and is given the first of them that it has.  Tables are refused if
a block tag looks like a closing tag, or is a continuation tag; so a name that opens a block has no
other role.  Nothing is refused that makes a name a closing tag and a continuation tag at once.
This file defines:

* `Tag.blockOfEnd_endOf`, `TagTables.isBlockEnd_iff` — closing tags are named for the blocks they
  close;
* `TagTables.role_endOf`, `TagTables.eq_endOf_of_role` — so it is with the names that have this
  role;
* `TagTables.granted` — the roles that the tests grant to a name, `TagTables.role_eq_head?_granted`;
* `TagTables.length_granted_le_one_iff` — a name has one role at most, unless it closes a block and
  is a continuation tag;
* `TagTables.build?` — tables that are made, and to which block tags are added again and again;
* `TagTables.blockTags_of_build?` — the block tags of such tables are all those that were given;
* `TagTables.granted_of_build?` — what their names are granted, in terms of the names that were
  given.
-/

namespace LiquidMarkdown

/-! ## Closing tags -/

namespace Tag

theorem ne_endOf (X : Text) : X ≠ endOf X := by
  intro h
  have hlen := congrArg List.length h
  simp only [endOf, List.length_append] at hlen
  have hend : endPrefix.length = 3 := by decide
  omega

theorem endOf_injective {X Y : Text} (h : endOf X = endOf Y) : X = Y :=
  List.append_cancel_left h

theorem dropPrefix?_endOf (X : Text) : Text.dropPrefix? endPrefix (endOf X) = some X :=
  Text.dropPrefix?_eq_some.2 rfl

theorem blockOfEnd_endOf (X : Text) : blockOfEnd (endOf X) = X := by
  rw [blockOfEnd, dropPrefix?_endOf, Option.getD_some]

theorem endOf_ne_unknownName (X : Text) : endOf X ≠ unknownName := by
  intro h
  have hprefix : Text.dropPrefix? endPrefix unknownName = some X := h ▸ dropPrefix?_endOf X
  have hnone : Text.dropPrefix? endPrefix unknownName = none := by decide
  rw [hnone] at hprefix
  cases hprefix

end Tag

namespace TagTables

variable {T : TagTables} {X name : Text}

/-- The name of a closing tag opens no block. -/
theorem isBlockStart_endOf (T : TagTables) (X : Text) : T.isBlockStart (Tag.endOf X) = false := by
  apply Bool.eq_false_iff.2
  intro h
  have hend := T.not_end _ (of_decide_eq_true h)
  simp [Text.startsWith, Tag.dropPrefix?_endOf] at hend

/-- A name closes a block if it is `end` and the name of a block tag. -/
theorem isBlockEnd_iff : T.isBlockEnd name = true ↔ ∃ X ∈ T.blockTags, name = Tag.endOf X := by
  unfold isBlockEnd
  constructor
  · intro h
    cases hp : Text.dropPrefix? Tag.endPrefix name with
    | none =>
        rw [hp] at h
        cases h
    | some rest =>
        rw [hp] at h
        exact ⟨rest, of_decide_eq_true h, Text.dropPrefix?_eq_some.1 hp⟩
  · rintro ⟨X, hX, rfl⟩
    rw [Tag.dropPrefix?_endOf]
    exact decide_eq_true hX

/-! ## The role of a name -/

theorem role_of_isBlockStart (h : T.isBlockStart X = true) : T.role X = .blockStart := by
  rw [role, if_pos h]

theorem isBlockStart_of_role (h : T.role X = .blockStart) : T.isBlockStart X = true := by
  cases hs : T.isBlockStart X with
  | true => rfl
  | false =>
      unfold role at h
      cases he : T.isBlockEnd X with
      | true => simp [hs, he] at h
      | false => cases hc : T.isContinuation X with
        | false | true => simp [hs, he, hc] at h

theorem role_endOf (h : T.isBlockStart X = true) : T.role (Tag.endOf X) = .blockEnd := by
  have hend : T.isBlockEnd (Tag.endOf X) = true := isBlockEnd_iff.2 ⟨X, of_decide_eq_true h, rfl⟩
  rw [role, T.isBlockStart_endOf, hend]
  rfl

/-- The name of a tag that closes a block is `end` and the type of the block. -/
theorem eq_endOf_of_role (h : T.role name = .blockEnd) :
    name = Tag.endOf (Tag.blockOfEnd name) := by
  have hend : T.isBlockEnd name = true := by
    cases he : T.isBlockEnd name with
    | true => rfl
    | false =>
        unfold role at h
        cases hs : T.isBlockStart name with
        | true => simp [hs] at h
        | false => cases hc : T.isContinuation name with
          | false | true => simp [hs, he, hc] at h
  rcases isBlockEnd_iff.1 hend with ⟨X, _, rfl⟩
  rw [Tag.blockOfEnd_endOf]

/-! ## The roles that are granted -/

/-- The roles that the tests grant to a name. -/
def granted (T : TagTables) (name : Text) : List Role :=
  (if T.isBlockStart name then [.blockStart] else []) ++
    ((if T.isBlockEnd name then [.blockEnd] else []) ++
      (if T.isContinuation name then [.continuation] else []))

/-- The role of a name is the first that it is granted. -/
theorem role_eq_head?_granted (T : TagTables) (name : Text) :
    T.role name = (T.granted name).head?.getD .standalone := by
  unfold role granted
  cases T.isBlockStart name with
  | true => rfl
  | false =>
      cases T.isBlockEnd name with
      | true => rfl
      | false =>
          cases T.isContinuation name with
          | true => rfl
          | false => rfl

/-- A name that opens a block neither closes nor continues one. -/
theorem granted_of_isBlockStart (h : T.isBlockStart name = true) :
    T.granted name = [.blockStart] := by
  have hmem : name ∈ T.blockTags := of_decide_eq_true h
  have hend : T.isBlockEnd name = false := by
    apply Bool.eq_false_iff.2
    intro hend
    rcases isBlockEnd_iff.1 hend with ⟨X, _, rfl⟩
    rw [T.isBlockStart_endOf] at h
    cases h
  have hcontinuation : T.isContinuation name = false :=
    decide_eq_false (T.not_continuation name hmem)
  simp [granted, h, hend, hcontinuation]

/-- A name has one role at most, unless it closes a block and is a continuation tag. -/
theorem length_granted_le_one_iff :
    (T.granted name).length ≤ 1 ↔ ¬ (T.isBlockEnd name = true ∧ T.isContinuation name = true) := by
  cases hs : T.isBlockStart name with
  | true =>
      have hgranted := granted_of_isBlockStart hs
      have hend : T.isBlockEnd name = false := by
        apply Bool.eq_false_iff.2
        intro hend
        rw [granted, hs, hend] at hgranted
        cases hgranted
      simp [hgranted, hend]
  | false =>
      cases he : T.isBlockEnd name with
      | false => cases hc : T.isContinuation name with
        | false | true => simp [granted, hs, he, hc]
      | true => cases hc : T.isContinuation name with
        | false | true => simp [granted, hs, he, hc]

/-! ## Tables that are made -/

/-- Tables that are made of the given names, and to which further block tags are added, again and
again. -/
def build? (blockTags continuationTags verbatimTags : List Text)
    (continuationParents : List (Text × Text)) (extras : List (List Text)) :
    Except Error TagTables := do
  let T ← make? blockTags continuationTags verbatimTags continuationParents
  extras.foldlM withBlockTags? T

variable {blockTags continuationTags verbatimTags : List Text}
  {continuationParents : List (Text × Text)} {extras : List (List Text)}

/-- Tables that are not refused hold the names that they are made of. -/
theorem eq_of_make?
    (h : make? blockTags continuationTags verbatimTags continuationParents = .ok T) :
    T.blockTags = blockTags ∧ T.continuationTags = continuationTags := by
  unfold make? at h
  split at h
  · split at h
    · cases h
      exact ⟨rfl, rfl⟩
    · cases h
  · cases h

/-- Tables with further block tags hold these and those that were there. -/
theorem eq_of_withBlockTags? {U : TagTables} {extra : List Text}
    (h : T.withBlockTags? extra = .ok U) :
    U.blockTags = T.blockTags ++ namesOf extra ∧ U.continuationTags = T.continuationTags := by
  unfold withBlockTags? at h
  split at h
  · next hnone =>
      cases h
      rw [hnone, List.append_nil]
      exact ⟨rfl, rfl⟩
  · exact eq_of_make? h

/-- However often block tags are added, the tables hold all of them. -/
theorem eq_of_foldlM {U : TagTables} (h : extras.foldlM withBlockTags? T = .ok U) :
    U.blockTags = T.blockTags ++ extras.flatMap namesOf ∧
      U.continuationTags = T.continuationTags := by
  induction extras generalizing T with
  | nil =>
      cases h
      rw [List.flatMap_nil, List.append_nil]
      exact ⟨rfl, rfl⟩
  | cons extra extras ih =>
      rw [List.foldlM_cons] at h
      cases hextra : T.withBlockTags? extra with
      | error e =>
          rw [hextra] at h
          cases h
      | ok T' =>
          rw [hextra] at h
          rcases eq_of_withBlockTags? hextra with ⟨hblock, hcontinuation⟩
          rcases ih h with ⟨hblock', hcontinuation'⟩
          rw [hblock', hblock, hcontinuation', hcontinuation, List.flatMap_cons, List.append_assoc]
          exact ⟨rfl, rfl⟩

theorem eq_of_build?
    (h : build? blockTags continuationTags verbatimTags continuationParents extras = .ok T) :
    T.blockTags = blockTags ++ extras.flatMap namesOf ∧ T.continuationTags = continuationTags := by
  unfold build? at h
  cases hmake : make? blockTags continuationTags verbatimTags continuationParents with
  | error e =>
      rw [hmake] at h
      cases h
  | ok T₀ =>
      rw [hmake] at h
      rcases eq_of_make? hmake with ⟨hblock, hcontinuation⟩
      rcases eq_of_foldlM h with ⟨hblock', hcontinuation'⟩
      rw [hblock', hblock, hcontinuation', hcontinuation]
      exact ⟨rfl, rfl⟩

/-- However tables are made, a name is given the first role that it is granted, which is none where
it stands alone.  It is granted one role at most, unless it is one of the continuation tags and
closes a block of one of the types that were given. -/
theorem granted_of_build?
    (h : build? blockTags continuationTags verbatimTags continuationParents extras = .ok T)
    (name : Text) :
    T.role name = (T.granted name).head?.getD .standalone ∧
      ((T.granted name).length ≤ 1 ↔
        ¬ (name ∈ continuationTags ∧
          ∃ X, (X ∈ blockTags ∨ ∃ extra ∈ extras, X ∈ namesOf extra) ∧ name = Tag.endOf X)) := by
  rcases eq_of_build? h with ⟨hblock, hcontinuation⟩
  refine ⟨T.role_eq_head?_granted name, ?_⟩
  have hcontinues : T.isContinuation name = true ↔ name ∈ continuationTags := by
    rw [isContinuation, decide_eq_true_iff, hcontinuation]
  have hcloses : T.isBlockEnd name = true ↔
      ∃ X, (X ∈ blockTags ∨ ∃ extra ∈ extras, X ∈ namesOf extra) ∧ name = Tag.endOf X := by
    rw [isBlockEnd_iff, hblock]
    simp only [List.mem_append, List.mem_flatMap]
  rw [length_granted_le_one_iff, hcontinues, hcloses, and_comm]

/-- A block tag that is added makes a closing tag of a name that is a continuation tag already. -/
theorem granted_of_build?_endsection : ∃ T,
    build? ["if"] ["else", "endsection"] [] [("else", "if")] [[" section ", ""]] = .ok T ∧
      T.role "endsection" = .blockEnd ∧ ¬ (T.granted "endsection").length ≤ 1 ∧
        (T.granted "endif").length ≤ 1 := by
  have hbuild : build? ["if"] ["else", "endsection"] [] [("else", "if")] [[" section ", ""]] = .ok
      ⟨["if", "section"], ["else", "endsection"], [], [("else", "if")], by decide, by decide⟩ := by
    rfl
  rcases granted_of_build? hbuild "endsection" with ⟨hrole, hone⟩
  refine ⟨_, hbuild, hrole, ?_, ?_⟩
  · rw [hone, Classical.not_not]
    exact ⟨by decide, "section", .inr ⟨_, List.mem_cons_self, by decide⟩, by decide⟩
  · rw [(granted_of_build? hbuild "endif").2]
    rintro ⟨hmem, _⟩
    exact absurd hmem (by decide)

end TagTables
end LiquidMarkdown
