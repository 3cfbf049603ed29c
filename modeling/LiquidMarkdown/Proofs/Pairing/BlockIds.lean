import LiquidMarkdown.Proofs.Pairing.Invariant

/-!
# Block ids

Every opening tag gets an id of its own: the label of the source, the block type, and a number that
no other tag gets.  The type may hold dashes and digits as well, so the number is what is behind the
last dash.  This file defines:

* `Text.ofNat_injective`, `Text.dash_notMem_ofNat` — decimal digits tell the number;
* `IdSource.minted` — the ids that a source gives one after another, `IdSource.nodup_minted`;
* `State.FramesStepped` — what one tag more does to the frames, `State.framesStepped_step`;
* `State.Minted` — the ids of the frames are those that were minted, `State.Minted.step`;
* `exists_minted_associate` — so they are behind a pairing;
* `Call`, `associateAll` — several pairings that share a source of ids;
* `nodup_ids_associateAll` — no id is given twice.
-/

namespace LiquidMarkdown

/-! ## Numbers as texts -/

namespace Text

theorem ofNat_injective : Function.Injective ofNat := by
  intro m n h
  have hvalue := congrArg (fun digits => Nat.ofDigitChars 10 digits 0) h
  simpa only [ofNat, Nat.ofDigitChars_ten_toDigits] using hvalue

theorem dash_notMem_ofNat (n : Nat) : '-' ∉ ofNat n := by
  intro h
  have hdigit : '-'.isDigit = true := Nat.isDigit_of_mem_toDigits (by decide) (by decide) h
  exact absurd hdigit (by decide)

/-- What is behind the last dash of a text is told by the text. -/
theorem eq_of_append_dash {a b u v : Text} (h : a ++ '-' :: u = b ++ '-' :: v) (hu : '-' ∉ u)
    (hv : '-' ∉ v) : u = v := by
  rcases List.append_eq_append_iff.1 h with ⟨c, _, hc⟩ | ⟨c, _, hc⟩
  · cases c with
    | nil => simpa using hc
    | cons d c =>
        -- The dash before `v` would be a dash in `u`.
        have hmem : u = c ++ '-' :: v := by simpa using (List.cons.inj hc).2
        exact absurd (by simp [hmem]) hu
  · cases c with
    | nil => simpa using hc.symm
    | cons d c =>
        have hmem : v = c ++ '-' :: u := by simpa using (List.cons.inj hc).2
        exact absurd (by simp [hmem]) hv

end Text

namespace Pairing

/-! ## Sources of ids -/

namespace IdSource

variable {s : IdSource}

/-- The number of an id is told by the id, whatever the block types are. -/
theorem number_eq_of_idOf_eq {X Y : Text} {m n : Nat} (h : s.idOf X m = s.idOf Y n) : m = n := by
  have hdigits := Text.eq_of_append_dash h (Text.dash_notMem_ofNat m) (Text.dash_notMem_ofNat n)
  exact Text.ofNat_injective hdigits

/-- The source behind some ids more. -/
def advance (s : IdSource) (n : Nat) : IdSource :=
  { s with used := s.used + n }

/-- The ids that a source gives to blocks of the given types, one after another. -/
def minted (s : IdSource) : List Text → List Text
  | [] => []
  | X :: Xs => (s.next X).1 :: (s.next X).2.minted Xs

theorem advance_advance (m n : Nat) : (s.advance m).advance n = s.advance (m + n) := by
  simp [advance, Nat.add_assoc]

theorem minted_append (s : IdSource) (Xs Ys : List Text) :
    s.minted (Xs ++ Ys) = s.minted Xs ++ (s.advance Xs.length).minted Ys := by
  induction Xs generalizing s with
  | nil => rfl
  | cons X Xs ih =>
      have hnext : (s.next X).2.advance Xs.length = s.advance (X :: Xs).length := by
        simp [next, advance, Nat.add_comm, Nat.add_left_comm]
      rw [List.cons_append, minted, ih, hnext]
      rfl

/-- The ids that a source gives have numbers above those that were used. -/
theorem exists_of_mem_minted {Xs : List Text} {id : Text} (h : id ∈ s.minted Xs) :
    ∃ X n, s.used < n ∧ id = s.idOf X n := by
  induction Xs generalizing s with
  | nil => cases h
  | cons X Xs ih =>
      rcases List.mem_cons.1 h with rfl | h
      · exact ⟨X, s.used + 1, Nat.lt_succ_self _, rfl⟩
      · rcases ih h with ⟨Y, n, hn, rfl⟩
        exact ⟨Y, n, Nat.lt_of_succ_lt hn, rfl⟩

theorem nodup_minted (s : IdSource) (Xs : List Text) : (s.minted Xs).Nodup := by
  induction Xs generalizing s with
  | nil => exact List.nodup_nil
  | cons X Xs ih =>
      refine List.nodup_cons.2 ⟨?_, ih _⟩
      intro h
      -- A later id has a greater number.
      rcases exists_of_mem_minted h with ⟨Y, n, hn, heq⟩
      have hnumber : s.used + 1 = n := number_eq_of_idOf_eq (s := s) heq
      exact absurd hnumber (Nat.ne_of_lt hn)

end IdSource

/-! ## Frames -/

namespace State

/-- What one tag more does to the frames of a pairing: it adds one with the next id, it extends one,
or it leaves all of them as they are. -/
inductive FramesStepped (s : State) (i : TagId) (s' : State) : Prop where
  | opens (hs : (s.roster.tag i).isStart = true)
      (hframes : s'.frames.Perm (⟨(s.roster.tag i).name, i,
        (s.ids.next (s.roster.tag i).name).1, [i]⟩ :: s.frames))
      (hids : s'.ids = s.ids.advance 1)
  | joins {f : Frame} {rest : List Frame} (hs : (s.roster.tag i).isStart = false)
      (hframes : s.frames.Perm (f :: rest)) (hframes' : s'.frames.Perm (f.extend i :: rest))
      (hids : s'.ids = s.ids)
  | stays (hs : (s.roster.tag i).isStart = false) (hframes : s'.frames = s.frames)
      (hids : s'.ids = s.ids)

variable {s : State}

theorem unique_step (h : s.opened.Unique) (T : TagTables) (i : TagId) :
    (s.step T i).opened.Unique := by
  have hstep := stepped_step T s i
  generalize s.step T i = s' at hstep
  cases hstep with
  | opens _ | closes _ _ _ _ | continues _ _ _ _ _ => exact OpenFrames.unique_set h _ _
  | orphan _ _ _ | ignores _ => exact h

theorem framesStepped_step (h : s.opened.Unique) (T : TagTables) (i : TagId) :
    FramesStepped s i (s.step T i) := by
  have hstep := stepped_step T s i
  generalize s.step T i = s' at hstep
  cases hstep with
  | opens hs =>
      let f : Frame := ⟨(s.roster.tag i).name, i, (s.ids.next (s.roster.tag i).name).1, [i]⟩
      have hall : (s.openFrame i (s.roster.tag i).name).opened.all.Perm (f :: s.opened.all) :=
        (OpenFrames.all_set_perm h (s.roster.tag i).name _).trans
          ((OpenFrames.all_perm h (s.roster.tag i).name).symm.cons f)
      exact .opens hs (hall.append_right s.closed) rfl
  | @closes X f fs hs he hX hf =>
      -- The frame moves from the open ones to the closed ones.
      have hall : s.opened.all.Perm (f :: (fs ++ s.opened.others X)) := by
        simpa only [hf, List.cons_append] using OpenFrames.all_perm h X
      have hall' : (s.opened.set X fs).all.Perm (fs ++ s.opened.others X) :=
        OpenFrames.all_set_perm h X _
      have hframes' : ((s.opened.set X fs).all ++ (s.closed ++ [f.extend i])).Perm
          (f.extend i :: (fs ++ s.opened.others X ++ s.closed)) := by
        rw [← List.append_assoc]
        exact ((hall'.append_right s.closed).append_right _).trans (List.perm_append_singleton _ _)
      exact .joins hs (hall.append_right s.closed) hframes' rfl
  | @continues X f fs hs he hc hX hf =>
      -- The frame stays where it is.
      have hall : s.opened.all.Perm (f :: (fs ++ s.opened.others X)) := by
        simpa only [hf, List.cons_append] using OpenFrames.all_perm h X
      have hall' : (s.opened.set X (f.extend i :: fs)).all.Perm
          (f.extend i :: (fs ++ s.opened.others X)) :=
        OpenFrames.all_set_perm h X _
      exact .joins hs (hall.append_right s.closed) (hall'.append_right s.closed) rfl
  | orphan hs hrole hX => exact .stays hs rfl rfl
  | ignores hrole => exact .stays (Tag.hasBlockRole_eq_false_iff.1 hrole).1 rfl rfl

end State

/-! ## One pairing -/

namespace State

variable {T : TagTables} {ids : IdSource} {Xs : List Text} {s : State}

/-- The ids of the frames are those that the source minted for blocks of the types `Xs`. -/
structure Minted (ids : IdSource) (Xs : List Text) (s : State) : Prop where
  unique : s.opened.Unique
  ids_eq : s.ids = ids.advance Xs.length
  frames : (s.frames.map (·.id)).Perm (ids.minted Xs)

namespace Minted

theorem start (ids : IdSource) (r : Roster) : Minted ids [] { roster := r, ids := ids } where
  unique := List.nodup_nil
  ids_eq := rfl
  frames := .refl _

/-- One tag more takes one id at most. -/
theorem step (h : s.Minted ids Xs) (T : TagTables) (i : TagId) :
    ∃ Ys, (s.step T i).Minted ids (Xs ++ Ys) := by
  have hunique := unique_step h.unique T i
  cases framesStepped_step h.unique T i with
  | opens hs hframes hids =>
      -- An opening tag gets the next id.
      have hminted : ids.minted (Xs ++ [(s.roster.tag i).name]) =
          ids.minted Xs ++ [(s.ids.next (s.roster.tag i).name).1] := by
        rw [IdSource.minted_append, ← h.ids_eq]
        rfl
      refine ⟨[(s.roster.tag i).name], hunique, ?_, ?_⟩
      · rw [hids, h.ids_eq, IdSource.advance_advance, List.length_append, List.length_singleton]
      · rw [hminted]
        calc
          ((s.step T i).frames.map (·.id)).Perm
              ((s.ids.next (s.roster.tag i).name).1 :: s.frames.map (·.id)) := hframes.map (·.id)
          List.Perm _ ((s.ids.next (s.roster.tag i).name).1 :: ids.minted Xs) := h.frames.cons _
          List.Perm _ (ids.minted Xs ++ [(s.ids.next (s.roster.tag i).name).1]) :=
            (List.perm_append_singleton _ _).symm
  | @joins f rest hs hframes hframes' hids =>
      -- A tag that joins a frame leaves its id as it is.
      refine ⟨[], hunique, ?_, ?_⟩
      · rw [List.append_nil, hids, h.ids_eq]
      · rw [List.append_nil]
        calc
          ((s.step T i).frames.map (·.id)).Perm ((f.extend i :: rest).map (·.id)) := hframes'.map _
          _ = (f :: rest).map (·.id) := rfl
          List.Perm _ (s.frames.map (·.id)) := (hframes.map _).symm
          List.Perm _ (ids.minted Xs) := h.frames
  | stays hs hframes hids =>
      refine ⟨[], hunique, ?_, ?_⟩
      · rw [List.append_nil, hids, h.ids_eq]
      · rw [List.append_nil, hframes]
        exact h.frames

theorem foldl (h : s.Minted ids Xs) (T : TagTables) (is : List TagId) :
    ∃ Ys, (is.foldl (State.step T) s).Minted ids (Xs ++ Ys) := by
  induction is generalizing s Xs with
  | nil =>
      refine ⟨[], ?_⟩
      rwa [List.append_nil]
  | cons i is ih =>
      rcases h.step T i with ⟨Ys, hstep⟩
      rcases ih hstep with ⟨Zs, hrest⟩
      exact ⟨Ys ++ Zs, by rwa [← List.append_assoc]⟩

end Minted
end State

/-- The frames that a pairing comes to. -/
def Result.frames (res : Result) : List Frame :=
  res.unclosed ++ res.closed

/-- The frames that a pairing comes to have the ids that were minted for them. -/
theorem exists_minted_associate (T : TagTables) (ids : IdSource) (r : Roster) (is : List TagId) :
    ∃ Xs, ((associate T ids r is).2.1.frames.map (·.id)).Perm (ids.minted Xs) ∧
      (associate T ids r is).2.2 = ids.advance Xs.length := by
  have hstart := State.Minted.start ids (r.updateAll (participants r is) Tag.reset)
  rcases hstart.foldl T (participants r is) with ⟨Xs, hminted⟩
  exact ⟨Xs, hminted.frames, hminted.ids_eq⟩

/-! ## Several pairings -/

/-- A pairing that is asked for: the tables, the tags as they are, and the numbers of those that are
given. -/
structure Call where
  tables : TagTables
  roster : Roster
  tags : List TagId

/-- The pairings that are asked for, one after another, with block ids from one source: the rosters
behind them and the results. -/
def associateAll (ids : IdSource) : List Call → List (Roster × Result)
  | [] => []
  | c :: cs =>
      let (r, res, ids) := associate c.tables ids c.roster c.tags
      (r, res) :: associateAll ids cs

theorem associateAll_cons (ids : IdSource) (c : Call) (cs : List Call) :
    associateAll ids (c :: cs) =
      ((associate c.tables ids c.roster c.tags).1, (associate c.tables ids c.roster c.tags).2.1) ::
        associateAll (associate c.tables ids c.roster c.tags).2.2 cs := rfl

/-- The block ids of all frames that some pairings come to. -/
def blockIds (outs : List (Roster × Result)) : List Text :=
  outs.flatMap fun out => out.2.frames.map (·.id)

theorem exists_minted_associateAll (ids : IdSource) (cs : List Call) :
    ∃ Xs, (blockIds (associateAll ids cs)).Perm (ids.minted Xs) := by
  induction cs generalizing ids with
  | nil => exact ⟨[], .refl _⟩
  | cons c cs ih =>
      rcases exists_minted_associate c.tables ids c.roster c.tags with ⟨Xs, hframes, hids⟩
      rcases ih (associate c.tables ids c.roster c.tags).2.2 with ⟨Ys, hrest⟩
      refine ⟨Xs ++ Ys, ?_⟩
      rw [IdSource.minted_append, associateAll_cons, ← hids]
      exact hframes.append hrest

/-- No block id is given twice, in one pairing or in two that share a source. -/
theorem nodup_ids_associateAll (ids : IdSource) (cs : List Call) :
    (blockIds (associateAll ids cs)).Nodup := by
  rcases exists_minted_associateAll ids cs with ⟨Xs, hminted⟩
  exact hminted.nodup_iff.2 (ids.nodup_minted Xs)

end Pairing
end LiquidMarkdown
