import LiquidMarkdown.Annotation.Read
import LiquidMarkdown.Proofs.Pairing.Brackets
import LiquidMarkdown.Proofs.Pairing.Frames

/-!
# The tag that a tag belongs to

A closing tag and a continuation belong to the innermost opening tag before them that is still open,
of the type that they close or may join.  This file defines:

* `Tag.Prepared` — the roles of a tag are those of its name, `Tag.prepared_read`;
* `Tag.SingleRole` — a tag has one role at most, under whatever tables it was read;
* `Tag.joins?` — the block type that a tag closes or continues;
* `Tag.fault` — what is wrong with a tag that belongs to no opening tag;
* `Roster.brackets` — the tags as brackets, for each block type;
* `Roster.Host` — a tag belongs to an opening tag;
* `State.Stepped` — what one tag more does to a pairing, `State.stepped_step`.
-/

namespace LiquidMarkdown

/-! ## Roles -/

namespace Tag

theorem hasBlockRole_of_isStart {t : Tag} (h : t.isStart = true) : t.hasBlockRole = true := by
  simp [hasBlockRole, h]

theorem hasBlockRole_of_isEnd {t : Tag} (h : t.isEnd = true) : t.hasBlockRole = true := by
  simp [hasBlockRole, h]

theorem hasBlockRole_of_isContinuation {t : Tag} (h : t.isContinuation = true) :
    t.hasBlockRole = true := by
  simp [hasBlockRole, h]

theorem hasBlockRole_eq_false_iff {t : Tag} : t.hasBlockRole = false ↔
    t.isStart = false ∧ t.isEnd = false ∧ t.isContinuation = false := by
  simp [hasBlockRole, and_assoc]

/-- A role that the tag has is the role of its name. -/
structure Prepared (T : TagTables) (t : Tag) : Prop where
  start : t.isStart = true → T.role t.name = .blockStart
  stop : t.isEnd = true → T.role t.name = .blockEnd
  continuation : t.isContinuation = true → T.role t.name = .continuation

/-- A tag that was read is prepared, unless it has no text and was given a role by a caller. -/
theorem prepared_read (T : TagTables) {t : Tag} (h : t.raw = [] → t.hasBlockRole = false) :
    (t.read T).Prepared T := by
  by_cases hraw : t.raw = []
  · have hrole := h hraw
    simp only [hasBlockRole, Bool.or_eq_false_iff] at hrole
    have hread : t.read T = t := by
      rw [read, if_pos hraw]
    rw [hread]
    refine ⟨?_, ?_, ?_⟩
    · intro hs
      exact absurd hs (by simp [hrole.1.1])
    · intro he
      exact absurd he (by simp [hrole.1.2])
    · intro hc
      exact absurd hc (by simp [hrole.2])
  · -- However reading comes out, the roles are set by the name.
    have hroles (u : Tag) (name : Text) : (u.withRole T name).Prepared T := by
      refine ⟨?_, ?_, ?_⟩
      · intro hs
        exact beq_iff_eq.1 hs
      · intro he
        exact beq_iff_eq.1 he
      · intro hc
        exact beq_iff_eq.1 hc
    rw [read, if_neg hraw]
    dsimp only
    split
    · exact ⟨(hroles t _).start, (hroles t _).stop, (hroles t _).continuation⟩
    · split
      · exact ⟨(hroles t _).start, (hroles t _).stop, (hroles t _).continuation⟩
      · exact ⟨(hroles t _).start, (hroles t _).stop, (hroles t _).continuation⟩

namespace Prepared

variable {T : TagTables} {t : Tag}

theorem of_isStart (h : t.Prepared T) (hs : t.isStart = true) :
    t.isEnd = false ∧ t.isContinuation = false := by
  have hrole := h.start hs
  constructor
  · exact Bool.eq_false_iff.2 fun he => by simp [h.stop he] at hrole
  · exact Bool.eq_false_iff.2 fun hc => by simp [h.continuation hc] at hrole

theorem of_isEnd (h : t.Prepared T) (he : t.isEnd = true) :
    t.isStart = false ∧ t.isContinuation = false := by
  have hrole := h.stop he
  constructor
  · exact Bool.eq_false_iff.2 fun hs => by simp [h.start hs] at hrole
  · exact Bool.eq_false_iff.2 fun hc => by simp [h.continuation hc] at hrole

theorem of_isContinuation (h : t.Prepared T) (hc : t.isContinuation = true) :
    t.isStart = false ∧ t.isEnd = false := by
  have hrole := h.continuation hc
  constructor
  · exact Bool.eq_false_iff.2 fun hs => by simp [h.start hs] at hrole
  · exact Bool.eq_false_iff.2 fun he => by simp [h.stop he] at hrole

end Prepared

/-- The tag has one role at most. -/
structure SingleRole (t : Tag) : Prop where
  of_isStart : t.isStart = true → t.isEnd = false ∧ t.isContinuation = false
  of_isEnd : t.isEnd = true → t.isStart = false ∧ t.isContinuation = false

theorem Prepared.singleRole {T : TagTables} {t : Tag} (h : t.Prepared T) : t.SingleRole where
  of_isStart := h.of_isStart
  of_isEnd := h.of_isEnd

/-- The block type that the tag closes or continues. -/
def joins? (T : TagTables) (t : Tag) : Option Text :=
  if t.isStart then none
  else if t.isEnd then some (blockOfEnd t.name)
  else if t.isContinuation then T.parent? t.name
  else none

/-- What is wrong with a tag that closes or continues a block, where there is no such block. -/
def fault (T : TagTables) (t : Tag) : Pairing.Fault :=
  if t.isEnd then .orphanedEnd t.name
  else match T.parent? t.name with
    | none => .unknownContinuation t.name
    | some _ => .orphanedContinuation t.name

theorem joins?_of_isStart {T : TagTables} {t : Tag} (h : t.isStart = true) : t.joins? T = none := by
  rw [joins?, if_pos h]

theorem joins?_of_isEnd {T : TagTables} {t : Tag} (hs : t.isStart = false) (h : t.isEnd = true) :
    t.joins? T = some (blockOfEnd t.name) := by
  simp [joins?, hs, h]

theorem joins?_of_isContinuation {T : TagTables} {t : Tag} (hs : t.isStart = false)
    (he : t.isEnd = false) (h : t.isContinuation = true) : t.joins? T = T.parent? t.name := by
  simp [joins?, hs, he, h]

theorem fault_of_isEnd {T : TagTables} {t : Tag} (h : t.isEnd = true) :
    t.fault T = .orphanedEnd t.name := by
  rw [fault, if_pos h]

theorem fault_of_parent?_eq_none {T : TagTables} {t : Tag} (he : t.isEnd = false)
    (h : T.parent? t.name = none) : t.fault T = .unknownContinuation t.name := by
  simp [fault, he, h]

theorem fault_of_parent?_eq_some {T : TagTables} {t : Tag} {X : Text} (he : t.isEnd = false)
    (h : T.parent? t.name = some X) : t.fault T = .orphanedContinuation t.name := by
  simp [fault, he, h]

end Tag

/-! ## Hosts -/

namespace Roster

/-- The tags as brackets of one block type. -/
def brackets (r : Roster) (X : Text) : Brackets TagId where
  opens i := (r.tag i).isStart && (r.tag i).name = X
  closes i := !(r.tag i).isStart && (r.tag i).isEnd && Tag.blockOfEnd (r.tag i).name = X
  disjoint i h := by
    simp only [Bool.and_eq_true] at h
    simp [h.1]

variable {r : Roster} {T : TagTables} {ps : List TagId} {i j k x : TagId} {X : Text}

theorem opens_iff :
    (r.brackets X).opens i = true ↔ (r.tag i).isStart = true ∧ (r.tag i).name = X := by
  simp [brackets]

theorem closes_iff : (r.brackets X).closes i = true ↔
    (r.tag i).isStart = false ∧ (r.tag i).isEnd = true ∧ Tag.blockOfEnd (r.tag i).name = X := by
  simp [brackets, and_assoc]

theorem opens_eq_false (h : (r.tag i).isStart = false) : (r.brackets X).opens i = false := by
  simp [brackets, h]

theorem closes_eq_false (h : (r.tag i).isStart = true ∨ (r.tag i).isEnd = false) :
    (r.brackets X).closes i = false := by
  rcases h with h | h
  · simp [brackets, h]
  · simp [brackets, h]

theorem Agree.joins? {r' : Roster} (h : r.Agree r') (T : TagTables) (i : TagId) :
    (r.tag i).joins? T = (r'.tag i).joins? T :=
  h.field (fun t => t.toTag.joins? T) (fun _ => rfl) i

theorem Agree.fault {r' : Roster} (h : r.Agree r') (T : TagTables) (i : TagId) :
    (r.tag i).fault T = (r'.tag i).fault T :=
  h.field (fun t => t.toTag.fault T) (fun _ => rfl) i

/-- The opening tag that a tag behind some others belongs to. -/
def host? (r : Roster) (T : TagTables) (ps : List TagId) (k : TagId) : Option TagId :=
  ((r.tag k).joins? T).bind fun X => ((r.brackets X).opened ps).head?

/-- The tag `k` belongs to the opening tag `i`. -/
def Host (r : Roster) (T : TagTables) (ps : List TagId) (k i : TagId) : Prop :=
  ∃ pre post, ps = pre ++ k :: post ∧ r.host? T pre k = some i

theorem host_concat :
    r.Host T (ps ++ [x]) k i ↔ r.Host T ps k i ∨ k = x ∧ r.host? T ps x = some i := by
  constructor
  · rintro ⟨pre, post, hps, hhost⟩
    -- The tag is the last one, or it stands among those before.
    cases post using List.reverseRecOn with
    | nil =>
        rcases List.append_inj' hps rfl with ⟨rfl, hx⟩
        cases hx
        exact .inr ⟨rfl, hhost⟩
    | append_singleton post y =>
        rw [← List.cons_append, ← List.append_assoc] at hps
        rcases List.append_inj' hps rfl with ⟨rfl, _⟩
        exact .inl ⟨pre, post, rfl, hhost⟩
  · rintro (⟨pre, post, rfl, hhost⟩ | ⟨rfl, hhost⟩)
    · exact ⟨pre, post ++ [x], by simp, hhost⟩
    · exact ⟨ps, [], rfl, hhost⟩

/-- A tag belongs to an opening tag before it. -/
theorem opens_of_host? (h : r.host? T ps k = some i) : i ∈ ps ∧ (r.tag i).isStart = true := by
  rcases Option.bind_eq_some_iff.1 h with ⟨X, _, hhead⟩
  rcases List.head?_eq_some_iff.1 hhead with ⟨rest, hrest⟩
  rcases Brackets.opened_eq_cons_iff.1 hrest with ⟨pre, mid, rfl, ho, _⟩
  exact ⟨List.mem_append_right _ List.mem_cons_self, (opens_iff.1 ho).1⟩

namespace Host

theorem mem (h : r.Host T ps k i) : k ∈ ps ∧ i ∈ ps := by
  rcases h with ⟨pre, post, rfl, hhost⟩
  refine ⟨List.mem_append_right _ List.mem_cons_self, List.mem_append_left _ ?_⟩
  exact (opens_of_host? hhost).1

theorem isStart (h : r.Host T ps k i) : (r.tag i).isStart = true := by
  rcases h with ⟨pre, post, rfl, hhost⟩
  exact (opens_of_host? hhost).2

/-- A tag belongs to an opening tag of the type that it closes or continues. -/
theorem joins?_eq (h : r.Host T ps k i) : (r.tag k).joins? T = some (r.tag i).name := by
  rcases h with ⟨pre, post, _, hhost⟩
  rcases Option.bind_eq_some_iff.1 hhost with ⟨X, hX, hhead⟩
  rcases List.head?_eq_some_iff.1 hhead with ⟨rest, hrest⟩
  rcases Brackets.opened_eq_cons_iff.1 hrest with ⟨pre, mid, rfl, ho, _⟩
  rw [hX, (opens_iff.1 ho).2]

/-- No opening tag belongs to another one. -/
theorem isStart_eq_false (h : r.Host T ps k i) : (r.tag k).isStart = false := by
  rcases h with ⟨pre, post, _, hhost⟩
  cases hs : (r.tag k).isStart with
  | false => rfl
  | true =>
      rw [host?, Tag.joins?_of_isStart hs] at hhost
      cases hhost

theorem hasBlockRole (h : r.Host T ps k i) : (r.tag k).hasBlockRole = true := by
  have hjoins := h.joins?_eq
  unfold Tag.joins? at hjoins
  split at hjoins
  · cases hjoins
  · split at hjoins
    · next he => exact Tag.hasBlockRole_of_isEnd he
    · split at hjoins
      · next hc => exact Tag.hasBlockRole_of_isContinuation hc
      · cases hjoins

/-- The opening tag stands before the tag that belongs to it. -/
theorem mem_of_split (hn : ps.Nodup) (h : r.Host T ps k i) {pre post : List TagId}
    (hps : ps = pre ++ k :: post) : i ∈ pre := by
  rcases h with ⟨pre', post', hps', hhost⟩
  rcases Brackets.eq_of_split hn hps hps' with ⟨rfl, _⟩
  exact (opens_of_host? hhost).1

/-- A tag belongs to one opening tag at most. -/
theorem unique (hn : ps.Nodup) (h : r.Host T ps k i) (h' : r.Host T ps k j) : i = j := by
  rcases h with ⟨pre, post, hps, hhost⟩
  rcases h' with ⟨pre', post', hps', hhost'⟩
  rcases Brackets.eq_of_split hn hps hps' with ⟨rfl, _⟩
  rw [hhost] at hhost'
  exact Option.some.inj hhost'

end Host

/-- A closing tag belongs to the opening tag that it matches. -/
theorem host_iff_matches (hs : (r.tag j).isStart = false) (he : (r.tag j).isEnd = true) :
    r.Host T ps j i ↔ (r.brackets (Tag.blockOfEnd (r.tag j).name)).Matches ps i j := by
  have hc := closes_iff.2 ⟨hs, he, rfl⟩
  rw [Brackets.matches_iff]
  constructor
  · rintro ⟨pre, post, hps, hhost⟩
    rw [host?, Tag.joins?_of_isEnd hs he] at hhost
    exact ⟨pre, post, hps, hc, hhost⟩
  · rintro ⟨pre, post, hps, _, hhead⟩
    refine ⟨pre, post, hps, ?_⟩
    rw [host?, Tag.joins?_of_isEnd hs he]
    exact hhead

end Roster

/-! ## Steps -/

namespace Pairing

/-- The frame with one member more. -/
def Frame.extend (f : Frame) (i : TagId) : Frame :=
  { f with members := f.members ++ [i] }

namespace State

variable {T : TagTables} {s : State} {i : TagId}

/-- What one tag more does to a pairing: it opens a frame, closes or continues the innermost frame
of a type, finds no such frame, or takes no part. -/
inductive Stepped (T : TagTables) (s : State) (i : TagId) : State → Prop where
  | opens (hs : (s.roster.tag i).isStart = true) :
      Stepped T s i (s.openFrame i (s.roster.tag i).name)
  | closes {X : Text} {f : Frame} {fs : List Frame} (hs : (s.roster.tag i).isStart = false)
      (he : (s.roster.tag i).isEnd = true) (hX : (s.roster.tag i).joins? T = some X)
      (hf : s.opened.ofType X = f :: fs) :
      Stepped T s i
        { s with
          roster := (f.extend i).relate (joinFrame s.roster i f)
          opened := s.opened.set X fs
          closed := s.closed ++ [f.extend i] }
  | continues {X : Text} {f : Frame} {fs : List Frame} (hs : (s.roster.tag i).isStart = false)
      (he : (s.roster.tag i).isEnd = false) (hc : (s.roster.tag i).isContinuation = true)
      (hX : (s.roster.tag i).joins? T = some X) (hf : s.opened.ofType X = f :: fs) :
      Stepped T s i
        { s with
          roster := joinFrame s.roster i f
          opened := s.opened.set X (f.extend i :: fs) }
  | orphan (hs : (s.roster.tag i).isStart = false)
      (hr : (s.roster.tag i).isEnd = true ∨ (s.roster.tag i).isContinuation = true)
      (hX : ∀ X, (s.roster.tag i).joins? T = some X → s.opened.ofType X = []) :
      Stepped T s i (s.orphan i ((s.roster.tag i).fault T))
  | ignores (h : (s.roster.tag i).hasBlockRole = false) : Stepped T s i s

theorem stepped_step (T : TagTables) (s : State) (i : TagId) : Stepped T s i (s.step T i) := by
  -- A step looks for the roles in this order: the first one that the tag has decides.
  cases hs : (s.roster.tag i).isStart with
  | true =>
      simp only [step, hs, if_true]
      exact .opens hs
  | false =>
      cases he : (s.roster.tag i).isEnd with
      | true =>
          have hX := Tag.joins?_of_isEnd (T := T) hs he
          simp only [step, hs, he, Bool.false_eq_true, if_false, if_true, closeFrame]
          split
          · next hnil =>
              rw [← Tag.fault_of_isEnd (T := T) he]
              refine .orphan hs (.inl he) ?_
              intro X hX'
              rw [hX] at hX'
              cases hX'
              exact hnil
          · next f fs hf => exact .closes hs he hX hf
      | false =>
          cases hc : (s.roster.tag i).isContinuation with
          | true =>
              have hX := Tag.joins?_of_isContinuation (T := T) hs he hc
              simp only [step, hs, he, hc, Bool.false_eq_true, if_false, if_true, continueFrame]
              split
              · next hnone =>
                  rw [← Tag.fault_of_parent?_eq_none he hnone]
                  refine .orphan hs (.inr hc) ?_
                  intro X hX'
                  rw [hX, hnone] at hX'
                  cases hX'
              · next X hsome =>
                  split
                  · next hnil =>
                      rw [← Tag.fault_of_parent?_eq_some he hsome]
                      refine .orphan hs (.inr hc) ?_
                      intro Y hY
                      rw [hX, hsome] at hY
                      cases hY
                      exact hnil
                  · next f fs hf => exact .continues hs he hc (hX.trans hsome) hf
          | false =>
              simp only [step, hs, he, hc, Bool.false_eq_true, if_false]
              exact .ignores (Tag.hasBlockRole_eq_false_iff.2 ⟨hs, he, hc⟩)

end State
end Pairing
end LiquidMarkdown
