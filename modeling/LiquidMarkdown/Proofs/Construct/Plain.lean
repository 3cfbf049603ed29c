import LiquidMarkdown.Proofs.Construct.Pieces

/-!
# Plain text stays plain

A text that is cut off between two constructs, or that begins with a construct which is never
closed, falls into itself when it is cut again.  This file states:

* `pieces_of_none`, `pieces_of_unclosed`, `pieces_of_construct` — the pieces of a text, by its first
  delimiter;
* `nextOpening?_before`, `getLast?_before_ne` — nothing is opened before the first delimiter, not
  even together with it;
* `pieces_of_text_mem` — a plain text among the pieces of a text is its own only piece.
-/

namespace LiquidMarkdown

variable {T : TagTables} {t u before inside rest : Text} {isTag : Bool} {p : Piece}

/-! ## Equations -/

theorem pieces_of_none (h : nextOpening? t = none) : pieces T t = textPiece t := by
  rw [pieces]
  split
  · rfl
  · next h₁ =>
      rw [h] at h₁
      cases h₁

theorem pieces_of_unclosed (h : nextOpening? t = some (before, isTag, inside))
    (hnone : constructPiece? T isTag inside = none) :
    pieces T t = textPiece before ++ textPiece ((delimitersOf isTag).opening ++ inside) := by
  rw [pieces]
  split
  · next h₁ =>
      rw [h] at h₁
      cases h₁
  · next h₁ =>
      rw [h] at h₁
      cases h₁
      split
      · rfl
      · next h₂ =>
          rw [hnone] at h₂
          cases h₂

theorem pieces_of_construct (h : nextOpening? t = some (before, isTag, inside))
    (hsome : constructPiece? T isTag inside = some (p, rest)) :
    pieces T t = textPiece before ++ p :: pieces T rest := by
  rw [pieces]
  split
  · next h₁ =>
      rw [h] at h₁
      cases h₁
  · next h₁ =>
      rw [h] at h₁
      cases h₁
      split
      · next h₂ =>
          rw [hsome] at h₂
          cases h₂
      · next h₂ =>
          rw [hsome] at h₂
          cases h₂
          rfl

theorem textPiece_of_ne_nil (h : t ≠ []) : textPiece t = [.text t] :=
  if_neg h

theorem mem_textPiece_iff {q : Piece} : q ∈ textPiece t ↔ q = .text t ∧ t ≠ [] := by
  unfold textPiece
  split
  · next h => simp [h]
  · next h => simp [h]

/-! ## The first delimiter -/

theorem opening_append_ne_nil (isTag : Bool) (inside : Text) :
    (delimitersOf isTag).opening ++ inside ≠ [] := by
  cases isTag <;> exact List.cons_ne_nil _ _

/-- Nothing is opened before the first delimiter. -/
theorem nextOpening?_before (h : nextOpening? t = some (before, isTag, inside)) :
    nextOpening? before = none := by
  induction h using nextOpening?_induction with
  | here => rfl
  | later c cs b ho hb ih =>
      -- A delimiter that starts here would be one of the whole text.
      have hhere : opensTag? (c :: b) = none := by
        cases hs : opensTag? (c :: b) with
        | none => rfl
        | some s =>
            have hlong : c :: cs = (delimitersOf s.1).opening ++
                (s.2 ++ (delimitersOf isTag).opening ++ inside) := by
              rw [eq_of_nextOpening? hb, ← List.append_assoc, ← List.append_assoc,
                ← opensTag?_eq_some_iff.1 hs]
              simp
            rw [opensTag?_eq_some_iff.2 hlong] at ho
            cases ho
      simp only [nextOpening?, hhere, ih, Option.map_none]

/-- Before the first delimiter there is no brace that would make an earlier one. -/
theorem getLast?_before_ne (h : nextOpening? t = some (before, isTag, inside)) :
    before.getLast? ≠ some '{' := by
  induction h using nextOpening?_induction with
  | here => simp
  | later c cs b ho hb ih =>
      cases b with
      | cons d b => simpa using ih
      | nil =>
          -- A brace here and the one that the delimiter begins with would open an expression.
          intro hlast
          cases hlast
          have hcs := eq_of_nextOpening? hb
          cases isTag with
          | true =>
              rw [hcs] at ho
              cases ho
          | false =>
              rw [hcs] at ho
              cases ho

/-! ## Plain text -/

/-- A plain text among the pieces of a text is its own only piece. -/
theorem pieces_of_text_mem (h : .text u ∈ pieces T t) : pieces T u = [.text u] := by
  -- A piece of text before a delimiter opens nothing, for it ends where the first delimiter starts.
  have hplain {v : Text} (hv : nextOpening? v = none) (hu : .text u ∈ textPiece v) :
      pieces T u = [.text u] := by
    rcases mem_textPiece_iff.1 hu with ⟨heq, hne⟩
    cases heq
    rw [pieces_of_none hv, textPiece_of_ne_nil hne]
  fun_induction pieces T t with
  | case1 t h₁ => exact hplain h₁ h
  | case2 t before isTag inside h₁ h₂ =>
      rcases List.mem_append.1 h with h | h
      · exact hplain (nextOpening?_before h₁) h
      · -- What is never closed is not closed when it stands alone.
        rcases mem_textPiece_iff.1 h with ⟨heq, hne⟩
        cases heq
        rw [pieces_of_unclosed (nextOpening?_opening isTag inside) h₂, textPiece_of_ne_nil hne]
        rfl
  | case3 t before isTag inside h₁ p rest h₂ ih =>
      rcases List.mem_append.1 h with h | h
      · exact hplain (nextOpening?_before h₁) h
      · rcases List.mem_cons.1 h with rfl | h
        · -- The piece of a construct is no plain text.
          rcases Option.map_eq_some_iff.1 h₂ with ⟨⟨content, r⟩, _, hpiece⟩
          cases isTag with
          | true =>
              simp only [if_true, tagPiece] at hpiece
              split at hpiece <;> cases hpiece
          | false => cases hpiece
        · exact ih h

end LiquidMarkdown
