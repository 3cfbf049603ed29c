import LiquidMarkdown.Proofs.Document.Segmentation

/-!
# When splitting fails

Splitting fails where a text that gives way carries an offset map without segments, and for no other
reason.  So it makes no difference which of several texts is split first.  This file states:

* `error_of_bind`, `error_of_mapM` — where a sequence of steps fails;
* `error_of_splitText`, `Node.error_of_segmentAll` — splitting fails for one reason only;
* `bind_comm_of_error` — steps that fail for that reason only may be taken in either order.
-/

namespace LiquidMarkdown

variable {T : TagTables} {index : Option LineIndex}

/-! ## Steps -/

/-- A sequence of steps fails where one of the steps does. -/
theorem error_of_bind {α β : Type} {x : Except DocumentError α} {f : α → Except DocumentError β}
    {e : DocumentError} (h : x >>= f = .error e) :
    x = .error e ∨ ∃ a, x = .ok a ∧ f a = .error e := by
  cases x with
  | error e' =>
      cases h
      exact .inl rfl
  | ok a => exact .inr ⟨a, rfl, h⟩

theorem error_of_mapM {α β : Type} {f : α → Except DocumentError β} {as : List α}
    {e : DocumentError}
    (h : as.mapM f = .error e) : ∃ a ∈ as, f a = .error e := by
  induction as with
  | nil => cases h
  | cons a as ih =>
      rw [List.mapM_cons] at h
      rcases error_of_bind h with h | ⟨b, _, h⟩
      · exact ⟨a, List.mem_cons_self, h⟩
      · rcases error_of_bind h with h | ⟨bs, _, h⟩
        · rcases ih h with ⟨a', ha', he⟩
          exact ⟨a', List.mem_cons_of_mem _ ha', he⟩
        · cases h

/-! ## Splitting -/

namespace Placement

variable {p : Placement} {start stop : Nat} {e : DocumentError}

theorem error_of_position (h : p.position start stop = .error e) : e = .emptyOffsetMap := by
  unfold position at h
  split at h
  · split at h
    · cases h
    · cases h
      rfl
  · cases h

theorem error_of_dataAt (h : p.dataAt start = .error e) : e = .emptyOffsetMap := by
  unfold dataAt at h
  split at h
  · split at h
    · cases h
    · split at h
      · cases h
      · cases h
        rfl
  · cases h

theorem error_of_textLabel {t : Text} (h : p.textLabel start t = .error e) :
    e = .emptyOffsetMap := by
  rcases error_of_bind h with h | ⟨position, _, h⟩
  · exact error_of_position h
  · rcases error_of_bind h with h | ⟨data, _, h⟩
    · exact error_of_dataAt h
    · cases h

theorem error_of_tagLabel {raw : Text} (h : p.tagLabel start raw = .error e) :
    e = .emptyOffsetMap := by
  rcases error_of_bind h with h | ⟨position, _, h⟩
  · exact error_of_position h
  · cases h

theorem error_of_bodyNodes {body : Text} {isVerbatim : Bool}
    (h : p.bodyNodes start body isVerbatim = .error e) : e = .emptyOffsetMap := by
  simp only [bodyNodes] at h
  split at h
  · cases h
  · rcases error_of_bind h with h | ⟨l, _, h⟩
    · exact error_of_textLabel h
    · cases h

theorem error_of_node {q : Piece} (h : p.node start q = .error e) : e = .emptyOffsetMap := by
  cases q with
  | text t =>
      rcases error_of_bind h with h | ⟨l, _, h⟩
      · exact error_of_textLabel h
      · cases h
  | expression raw =>
      rcases error_of_bind h with h | ⟨position, _, h⟩
      · exact error_of_position h
      · cases h
  | tag raw =>
      rcases error_of_bind h with h | ⟨l, _, h⟩
      · exact error_of_tagLabel h
      · cases h
  | block opening body closing isVerbatim =>
      rcases error_of_bind h with h | ⟨first, _, h⟩
      · exact error_of_tagLabel h
      · rcases error_of_bind h with h | ⟨inner, _, h⟩
        · exact error_of_bodyNodes h
        · rcases error_of_bind h with h | ⟨last, _, h⟩
          · exact error_of_tagLabel h
          · rcases error_of_bind h with h | ⟨position, _, h⟩
            · exact error_of_position h
            · cases h

theorem error_of_nodes {qs : List Piece} (h : p.nodes start qs = .error e) :
    e = .emptyOffsetMap := by
  induction qs generalizing start with
  | nil => cases h
  | cons q qs ih =>
      rcases error_of_bind h with h | ⟨n, _, h⟩
      · exact error_of_node h
      · rcases error_of_bind h with h | ⟨ns, _, h⟩
        · exact ih h
        · cases h

end Placement

/-- Splitting a text fails for one reason only. -/
theorem error_of_splitText {p : Placement} {t : Text} {e : DocumentError}
    (h : splitText T p t = .error e) : e = .emptyOffsetMap := by
  simp only [splitText] at h
  split at h
  · rcases error_of_bind h with h | ⟨position, _, h⟩
    · exact Placement.error_of_position h
    · cases h
  · exact Placement.error_of_nodes h

namespace Node

/-- So does splitting a tree. -/
theorem error_of_segmentAll {ns : List Node} {e : DocumentError}
    (h : segmentAll T index ns = .error e) : e = .emptyOffsetMap := by
  generalize hk : unsplitSizeAll ns = k
  -- The recursion goes by the text that is left, as splitting itself does.
  induction k using Nat.strongRecOn generalizing ns with
  | ind k ih =>
    cases ns with
    | nil =>
        rw [segmentAll_nil] at h
        cases h
    | cons c ns =>
        have hrest : unsplitSizeAll ns < k := by
          simp only [← hk, unsplitSizeAll]
          omega
        have hbelow := c.unsplitBelow_lt
        have hsegment (n : Node) (hlt : n.unsplitBelow < k) (hn : segment T index n = .error e) :
            e = .emptyOffsetMap := by
          cases n with
          | stub l =>
              rw [segment_stub] at hn
              cases hn
          | branch l cs =>
              rw [segment_branch] at hn
              rcases error_of_bind hn with hcs | ⟨cs', _, hn⟩
              · exact ih _ hlt hcs rfl
              · cases hn
        cases ho : c.label.openText? with
        | none =>
            rw [segmentAll_cons_closed ho] at h
            rcases error_of_bind h with h | ⟨first, _, h⟩
            · refine hsegment c ?_ h
              simp only [← hk, unsplitSizeAll]
              omega
            · rcases error_of_bind h with h | ⟨rest, _, h⟩
              · exact ih _ hrest h rfl
              · cases h
        | some t =>
            rw [segmentAll_cons_open ho] at h
            rcases error_of_bind h with h | ⟨split, hs, h⟩
            · exact error_of_splitText h
            · rcases error_of_bind h with h | ⟨first, _, h⟩
              · unfold replacement at h
                split at h
                · cases h
                · rcases error_of_mapM h with ⟨n, hn, he⟩
                  refine hsegment n ?_ he
                  have hle := unsplitBelow_le_of_mem hs hn
                  simp only [ho, Option.getD_some] at hbelow
                  simp only [← hk, unsplitSizeAll]
                  omega
              · rcases error_of_bind h with h | ⟨rest, _, h⟩
                · exact ih _ hrest h rfl
                · cases h

theorem error_of_segment {n : Node} {e : DocumentError} (h : n.segment T index = .error e) :
    e = .emptyOffsetMap := by
  cases n with
  | stub l =>
      rw [segment_stub] at h
      cases h
  | branch l cs =>
      rw [segment_branch] at h
      rcases error_of_bind h with h | ⟨cs', _, h⟩
      · exact error_of_segmentAll h
      · cases h

end Node

/-- Two steps that fail for one reason only may be taken in either order. -/
theorem bind_comm_of_error {α β γ : Type} {x : Except DocumentError α} {y : Except DocumentError β}
    (hx : ∀ e, x = .error e → e = .emptyOffsetMap) (hy : ∀ e, y = .error e → e = .emptyOffsetMap)
    (f : α → β → Except DocumentError γ) :
    (x >>= fun a => y >>= fun b => f a b) = y >>= fun b => x >>= fun a => f a b := by
  cases x with
  | error e =>
      cases y with
      | error e' =>
          rw [hx e rfl, hy e' rfl]
          rfl
      | ok b => rfl
  | ok a =>
      cases y with
      | error e' => rfl
      | ok b => rfl

end LiquidMarkdown
