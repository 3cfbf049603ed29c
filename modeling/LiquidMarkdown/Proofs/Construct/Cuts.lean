import LiquidMarkdown.Proofs.Construct.Leftmost

/-!
# Cutting a text between its pieces

A text that is cut between two of its pieces falls into the same pieces on either side.  What a
piece asks of those behind it is asked no less of a beginning of them: an end that was found lies
inside the piece, and one that was not found is not found in less text.  This file states:

* `Piece.Leftmost.take` — a piece with fewer pieces behind it;
* `Leftmost.take`, `Leftmost.drop` — the pieces before a cut, and those behind it;
* `pieces_take`, `pieces_drop` — the two sides of a cut fall into the pieces that they hold.
-/

namespace LiquidMarkdown

variable {T : TagTables}

/-! ## Less text behind a piece -/

/-- The text that pieces cover is cut where the pieces are. -/
theorem joined_take_append_drop (k : Nat) (ps : List Piece) :
    (ps.take k).flatMap Piece.source ++ (ps.drop k).flatMap Piece.source =
      ps.flatMap Piece.source := by
  rw [← List.flatMap_append, List.take_append_drop]

theorem Piece.Leftmost.take {q : Piece} {behind : List Piece} (h : q.Leftmost T behind) (k : Nat) :
    q.Leftmost T (behind.take k) := by
  have hjoined := joined_take_append_drop k behind
  cases q with
  | text t =>
      rcases h with ⟨hne, ⟨hopen, rfl⟩ | ⟨hnothing, hlast, hhead⟩⟩
      · exact ⟨hne, .inl ⟨hopen, List.take_nil⟩⟩
      · refine ⟨hne, .inr ⟨hnothing, ?_, ?_⟩⟩
        · intro htake
          apply hlast
          rintro rfl
          exact htake List.take_nil
        · -- The piece right behind the text is the same, unless the cut comes before it.
          intro q hq
          cases k with
          | zero => cases hq
          | succ k =>
              rw [List.head?_take, if_neg (Nat.succ_ne_zero k)] at hq
              exact hhead q hq
  | expression raw => exact h
  | tag raw =>
      rcases h with ⟨content, hspans, hnone⟩
      refine ⟨content, hspans, ?_⟩
      intro hstart
      have hlong := hnone hstart
      rw [← hjoined] at hlong
      exact blockEnd?_eq_none_of_append hlong
  | block opening body closing isVerbatim =>
      rcases h with ⟨content, content', hspans, rfl, hstart, hend, hverbatim⟩
      exact ⟨content, content', hspans, rfl, hstart, blockEnd?_upTo hend _, hverbatim⟩

/-! ## The two sides of a cut -/

theorem Leftmost.take {ps : List Piece} (h : Leftmost T ps) (k : Nat) : Leftmost T (ps.take k) := by
  induction ps generalizing k with
  | nil =>
      rw [List.take_nil]
      exact h
  | cons q behind ih =>
      rcases h with ⟨hq, hbehind⟩
      cases k with
      | zero => exact trivial
      | succ k => exact ⟨hq.take k, ih hbehind k⟩

theorem Leftmost.drop {ps : List Piece} (h : Leftmost T ps) (k : Nat) : Leftmost T (ps.drop k) := by
  induction ps generalizing k with
  | nil =>
      rw [List.drop_nil]
      exact h
  | cons q behind ih =>
      cases k with
      | zero => exact h
      | succ k => exact ih h.2 k

/-- The text before a cut falls into the pieces that stood there. -/
theorem pieces_take (T : TagTables) (t : Text) (k : Nat) :
    pieces T (((pieces T t).take k).flatMap Piece.source) = (pieces T t).take k :=
  (eq_pieces_of_leftmost ((leftmost_pieces T t).take k)).symm

/-- The text behind a cut falls into the pieces that stood there. -/
theorem pieces_drop (T : TagTables) (t : Text) (k : Nat) :
    pieces T (((pieces T t).drop k).flatMap Piece.source) = (pieces T t).drop k :=
  (eq_pieces_of_leftmost ((leftmost_pieces T t).drop k)).symm

end LiquidMarkdown
