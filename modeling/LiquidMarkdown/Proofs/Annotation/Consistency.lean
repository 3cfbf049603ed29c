import LiquidMarkdown.Proofs.Pairing.Writing

/-!
# Outcome, error and what was read

Outcome, error and what reading left behind are fields of their own, and reading, pairing, checking
and settling write them in turn.  Whatever is done to constructs that were only just found, in
whatever order and under whatever tables, the three fields agree.  This file defines:

* `Construct.Consistent` — the three fields agree;
* `Construct.Quotes` — a diagnostic quotes the text between the delimiters;
* `Tag.Sound` — what holds of a tag at all times, `kept_sound`;
* `Workbench`, `Workbench.Operation`, `Workbench.apply` — constructs that are worked on, and what
  can be done to them;
* `Workbench.Sound` — what one operation preserves, `Workbench.sound_apply`;
* `Workbench.consistent_run` — what holds of all constructs behind any number of operations.
-/

namespace LiquidMarkdown

/-! ## Constructs -/

namespace Construct

/-- The outcome, the error and what was read agree: nothing is known yet, or the construct was read
and there is no error and no diagnostic, or it has failed and the diagnostic gives the error. -/
inductive Consistent (c : Construct) : Prop where
  | pending (outcome : c.outcome = .pending) (error : c.error = none) (parsed : c.parsed = none)
  | success (outcome : c.outcome = .success) (error : c.error = none)
      (parsed : ∀ d, c.parsed ≠ some (.diagnostic d))
  | failed (d : Diagnostic) (outcome : c.outcome = .failed)
      (parsed : c.parsed = some (.diagnostic d)) (error : c.error = some d.error)

/-- The content of a diagnostic is the text between the delimiters. -/
def Quotes (c : Construct) : Prop :=
  ∀ d, c.parsed = some (.diagnostic d) → c.inner = some d.content

theorem consistent_of_raw (raw : Text) : Consistent { raw := raw } :=
  .pending rfl rfl rfl

theorem quotes_of_raw (raw : Text) : Quotes { raw := raw } :=
  nofun

theorem consistent_succeed (c : Construct) {parsed : Option Parsed}
    (h : ∀ d, parsed ≠ some (.diagnostic d)) : (c.succeed parsed).Consistent :=
  .success rfl rfl h

theorem consistent_fail (c : Construct) (error kind : Text) (tagName : Option Text) :
    (c.fail error kind tagName).Consistent :=
  .failed _ rfl rfl rfl

theorem quotes_succeed (c : Construct) {parsed : Option Parsed}
    (h : ∀ d, parsed ≠ some (.diagnostic d)) : (c.succeed parsed).Quotes :=
  fun d hd => absurd hd (h d)

/-- A construct whose delimiters were stripped is quoted when it fails. -/
theorem quotes_fail {c : Construct} {inner : Text} (h : c.inner = some inner) (error kind : Text)
    (tagName : Option Text) : (c.fail error kind tagName).Quotes := by
  intro d hd
  cases hd
  simp [fail, h]

/-- A construct that was read has no error. -/
theorem Consistent.error_of_isSuccess {c : Construct} (h : c.Consistent)
    (hs : c.isSuccess = true) : c.error = none := by
  cases h with
  | pending _ he _ => exact he
  | success _ he _ => exact he
  | failed d ho _ _ => simp [isSuccess, ho] at hs

/-- Reading an expression makes its fields agree, whatever they were. -/
theorem consistent_readExpression {c : Construct} (h : c.Consistent) :
    c.readExpression.Consistent := by
  unfold readExpression
  split
  · exact h
  · dsimp only
    split
    · exact consistent_succeed _ nofun
    · exact consistent_fail _ _ _ _

theorem quotes_readExpression {c : Construct} (h : c.Quotes) : c.readExpression.Quotes := by
  unfold readExpression
  split
  · exact h
  · dsimp only
    split
    · exact quotes_succeed _ nofun
    · exact quotes_fail rfl _ _ _

/-- Reading the content of a block leaves the three fields alone. -/
theorem consistent_readBlock {c : Construct} (h : c.Consistent) (name : Text) :
    (c.readBlock name).2.Consistent := by
  unfold readBlock
  split
  · exact h
  · cases h with
    | pending ho he hp => exact .pending ho he hp
    | success ho he hp => exact .success ho he hp
    | failed d ho hp he => exact .failed d ho hp he

/-- A block that takes over the outcome of its tags takes it over as a whole. -/
theorem consistent_settle (name : Text) (c : Construct) (opening : Tag) (closing : Option Tag) :
    (LiquidMarkdown.settle name c opening closing).Consistent := by
  unfold LiquidMarkdown.settle
  dsimp only
  split
  · exact consistent_succeed _ nofun
  · exact consistent_fail _ _ _ _

end Construct

/-! ## Tags -/

/-- The fields of the tag agree, a diagnostic quotes it, and its delimiters were stripped if it has
a role in a block. -/
structure Tag.Sound (t : Tag) : Prop where
  consistent : t.Consistent
  quotes : t.Quotes
  stripped : t.hasBlockRole = true → t.inner.isSome = true

namespace Tag

theorem sound_of_raw (raw : Text) : Sound { raw := raw } where
  consistent := Construct.consistent_of_raw raw
  quotes := Construct.quotes_of_raw raw
  stripped := nofun

theorem Sound.settled {t : Tag} (h : t.Sound) : t.Settled :=
  h.consistent.error_of_isSuccess

/-- Reading a tag, under whatever tables, makes it sound; a tag without a text has to be sound
before. -/
theorem sound_read {t : Tag} (h : t.raw = [] → t.Sound) (T : TagTables) : (t.read T).Sound := by
  unfold read
  split
  · next hraw => exact h hraw
  · dsimp only
    split
    · exact ⟨Construct.consistent_fail _ _ _ _, Construct.quotes_fail rfl _ _ _, fun _ => rfl⟩
    · split
      · exact ⟨Construct.consistent_succeed _ nofun, Construct.quotes_succeed _ nofun, fun _ => rfl⟩
      · exact ⟨Construct.consistent_fail _ _ _ _, Construct.quotes_fail rfl _ _ _, fun _ => rfl⟩

/-- A tag with a role that has failed is sound if it was before. -/
theorem sound_markFault {t : Tag} (h : t.Sound) (hrole : t.hasBlockRole = true)
    (f : Pairing.Fault) : (Pairing.markFault f t).Sound := by
  rcases Option.isSome_iff_exists.1 (h.stripped hrole) with ⟨inner, hinner⟩
  exact ⟨Construct.consistent_fail _ _ _ _, Construct.quotes_fail hinner _ _ _, h.stripped⟩

end Tag

namespace Pairing

variable {r : Roster}

/-- Every way in which pairing writes into a tag with a role keeps it sound. -/
theorem kept_sound : Kept fun t => t.hasBlockRole = true → t.Sound where
  reset t h hrole := ⟨.pending rfl rfl rfl, nofun, (h hrole).stripped⟩
  opening id t h hrole := ⟨.success rfl rfl nofun, nofun, (h hrole).stripped⟩
  joining id t h hrole := ⟨.success rfl rfl nofun, nofun, (h hrole).stripped⟩
  withRelated is t h hrole := by
    have hsound : t.Sound := h hrole
    refine ⟨?_, hsound.quotes, hsound.stripped⟩
    cases hsound.consistent with
    | pending ho he hp => exact .pending ho he hp
    | success ho he hp => exact .success ho he hp
    | failed d ho hp he => exact .failed d ho hp he
  markFault f t h hrole := Tag.sound_markFault (h hrole) hrole f
  clearError t h hrole := by
    rcases exists_clearError_eq t with ⟨e, he⟩
    have hrole' : t.hasBlockRole = true := by
      rw [he] at hrole
      exact hrole
    have hsound : t.Sound := h hrole'
    rw [clearError_eq_self hsound.settled]
    exact hsound

/-- A pairing of any tags keeps all tags sound. -/
theorem sound_associate (h : r.Every Tag.Sound) (T : TagTables) (ids : IdSource)
    (is : List TagId) : (associate T ids r is).1.Every Tag.Sound := by
  intro i
  by_cases hrole : (r.tag i).hasBlockRole = true
  · have hkept := every_associate kept_sound (fun j _ => h j) T ids is i
    have hagree := agree_associate T ids r is
    rw [hagree.hasBlockRole] at hkept
    exact hkept hrole
  · rw [tag_associate_of_bystander T ids is (Bool.eq_false_iff.2 hrole)]
    exact h i

/-- Where all tags are sound there is no error to clear. -/
theorem updateAll_clearError_of_sound (h : r.Every Tag.Sound) (is : List TagId) :
    r.updateAll is clearError = r := by
  apply Roster.updateAll_eq_self
  intro i _
  rw [PlacedTag.mapTag, clearError_eq_self (h i).settled]

/-- So does the check of any tags, which clears no error. -/
theorem sound_check (h : r.Every Tag.Sound) (is : List TagId) :
    (check r is).1.Every Tag.Sound := by
  intro i
  by_cases hrole : (r.tag i).hasBlockRole = true
  · have hkept := every_check kept_sound (fun j _ => h j) is i
    have hagree := agree_check r is
    rw [hagree.hasBlockRole] at hkept
    exact hkept hrole
  · rw [tag_check_of_bystander is (Bool.eq_false_iff.2 hrole), updateAll_clearError_of_sound h]
    exact h i

end Pairing

/-! ## The workbench -/

/-- A block with its name, and its children if it has a list of them: each is one of the tags, or
some other node. -/
structure OpenBlock where
  name : Text := Tag.unknownName
  construct : Construct
  children : Option (List (Option TagId))

namespace OpenBlock

/-- The node of a child. -/
def childNode (r : Roster) : Option TagId → Node
  | some i => .leaf { type := Label.tagType, kind := .tag (r.tag i).toTag }
  | none => .leaf { type := Label.textType }

/-- The label of the block. -/
def label (b : OpenBlock) : Label :=
  { type := Label.blockType, value := some b.construct.raw, kind := .block b.name b.construct }

/-- The block with its name and its construct taken from a label. -/
def withLabel (b : OpenBlock) (l : Label) : OpenBlock :=
  match l.kind with
  | .block name c => { b with name := name, construct := c }
  | _ => b

/-- The block with the outcome of the tags among its children; without a list of children it cannot
take over any. -/
def settle (r : Roster) (b : OpenBlock) : OpenBlock :=
  match b.children with
  | some cs => b.withLabel (b.label.settle (cs.map (childNode r)))
  | none => b

theorem consistent_settle {b : OpenBlock} (h : b.construct.Consistent) (r : Roster) :
    (b.settle r).construct.Consistent := by
  unfold settle
  split
  · unfold Label.settle label
    split
    · next hkind _ =>
        cases hkind
        exact Construct.consistent_settle _ _ _ _
    · exact h
  · exact h

theorem consistent_read {b : OpenBlock} (h : b.construct.Consistent) (T : TagTables) :
    (b.withLabel (b.label.read T)).construct.Consistent :=
  Construct.consistent_readBlock h b.name

end OpenBlock

/-- Constructs that are worked on. -/
structure Workbench where
  expressions : List Construct
  tags : Roster
  blocks : List OpenBlock

namespace Workbench

/-- Constructs that were only just found, each with its text; a tag may have a position, and a block
has its children. -/
def ofTexts (expressions : List Text) (tags : List (Text × Option Position))
    (blocks : List (Text × Option (List (Option TagId)))) : Workbench where
  expressions := expressions.map fun raw => { raw := raw }
  tags := tags.map fun (raw, position) => { raw := raw, position := position }
  blocks := blocks.map fun (raw, children) => { construct := { raw := raw }, children := children }

/-- What can be done to constructs; they are given by number, tags in any order and any number of
times. -/
inductive Operation where
  | readExpression (i : Nat)
  | readTag (T : TagTables) (i : TagId)
  | readBlock (T : TagTables) (i : Nat)
  /-- Pair the tags under the given tables, with block ids from the given source. -/
  | associate (T : TagTables) (ids : Pairing.IdSource) (is : List TagId)
  | check (is : List TagId)
  /-- Give a block the outcome of its tags. -/
  | settle (i : Nat)

/-- The constructs behind an operation. -/
def apply (w : Workbench) : Operation → Workbench
  | .readExpression i =>
      { w with expressions := w.expressions.modify i Construct.readExpression }
  | .readTag T i => { w with tags := w.tags.update i (Tag.read T) }
  | .readBlock T i =>
      { w with blocks := w.blocks.modify i fun b => b.withLabel (b.label.read T) }
  | .associate T ids is => { w with tags := (Pairing.associate T ids w.tags is).1 }
  | .check is => { w with tags := (Pairing.check w.tags is).1 }
  | .settle i => { w with blocks := w.blocks.modify i (OpenBlock.settle w.tags) }

/-- The constructs behind some operations. -/
def run (w : Workbench) (os : List Operation) : Workbench :=
  os.foldl apply w

/-- What one operation preserves. -/
structure Sound (w : Workbench) : Prop where
  expressions : ∀ c ∈ w.expressions, c.Consistent ∧ c.Quotes
  tags : w.tags.Every Tag.Sound
  blocks : ∀ b ∈ w.blocks, b.construct.Consistent

theorem sound_ofTexts (expressions : List Text) (tags : List (Text × Option Position))
    (blocks : List (Text × Option (List (Option TagId)))) :
    (ofTexts expressions tags blocks).Sound where
  expressions c hc := by
    rcases List.mem_map.1 hc with ⟨raw, _, rfl⟩
    exact ⟨Construct.consistent_of_raw raw, Construct.quotes_of_raw raw⟩
  tags := by
    refine Roster.every_of_mem (Tag.sound_of_raw []) fun t ht => ?_
    rcases List.mem_map.1 ht with ⟨⟨raw, position⟩, _, rfl⟩
    exact Tag.sound_of_raw raw
  blocks b hb := by
    rcases List.mem_map.1 hb with ⟨⟨raw, children⟩, _, rfl⟩
    exact Construct.consistent_of_raw raw

/-- What holds of all members holds of them still when one of them is changed. -/
theorem forall_mem_modify {α : Type} {P : α → Prop} {as : List α} (h : ∀ a ∈ as, P a) (i : Nat)
    {f : α → α} (hf : ∀ a, P a → P (f a)) : ∀ a ∈ as.modify i f, P a := by
  induction as generalizing i with
  | nil =>
      rw [List.modify_nil]
      exact nofun
  | cons b as ih =>
      have hb := h b List.mem_cons_self
      have has : ∀ a ∈ as, P a := fun a ha => h a (List.mem_cons_of_mem _ ha)
      cases i with
      | zero =>
          intro a ha
          rcases List.mem_cons.1 ha with rfl | ha
          · exact hf _ hb
          · exact has a ha
      | succ i =>
          intro a ha
          rcases List.mem_cons.1 ha with rfl | ha
          · exact hb
          · exact ih has i a ha

/-- An operation keeps all constructs sound. -/
theorem sound_apply {w : Workbench} (h : w.Sound) (o : Operation) : (w.apply o).Sound := by
  cases o with
  | readExpression i =>
      exact ⟨forall_mem_modify h.expressions i fun c hc =>
        ⟨Construct.consistent_readExpression hc.1, Construct.quotes_readExpression hc.2⟩,
        h.tags, h.blocks⟩
  | readTag T i =>
      exact ⟨h.expressions, h.tags.update i fun t ht => Tag.sound_read (fun _ => ht) T, h.blocks⟩
  | readBlock T i =>
      exact ⟨h.expressions, h.tags,
        forall_mem_modify h.blocks i fun b hb => OpenBlock.consistent_read hb T⟩
  | associate T ids is => exact ⟨h.expressions, Pairing.sound_associate h.tags T ids is, h.blocks⟩
  | check is => exact ⟨h.expressions, Pairing.sound_check h.tags is, h.blocks⟩
  | settle i =>
      exact ⟨h.expressions, h.tags,
        forall_mem_modify h.blocks i fun b hb => OpenBlock.consistent_settle hb w.tags⟩

theorem sound_run {w : Workbench} (h : w.Sound) (os : List Operation) : (w.run os).Sound := by
  induction os generalizing w with
  | nil => exact h
  | cons o os ih => exact ih (sound_apply h o)

/-- Constructs that were only just found are read, paired, checked and settled, in any order and any
number of times.  Behind this, outcome, error and what was read agree for each of them; a diagnostic
of an expression or a tag quotes what stands between the delimiters; and there is no error for a
check to clear, whatever tags it is given. -/
theorem consistent_run (expressions : List Text) (tags : List (Text × Option Position))
    (blocks : List (Text × Option (List (Option TagId)))) (os : List Operation) :
    let w := (ofTexts expressions tags blocks).run os
    (∀ c ∈ w.expressions, c.Consistent ∧ c.Quotes) ∧
      (∀ t ∈ w.tags, t.Consistent ∧ t.Quotes) ∧
      (∀ b ∈ w.blocks, b.construct.Consistent) ∧
      ∀ is, w.tags.updateAll is Pairing.clearError = w.tags := by
  intro w
  have hsound : w.Sound := sound_run (sound_ofTexts expressions tags blocks) os
  refine ⟨hsound.expressions, fun t ht => ?_, hsound.blocks,
    Pairing.updateAll_clearError_of_sound hsound.tags⟩
  have htag : t.toTag.Sound := hsound.tags.of_mem ht
  exact ⟨htag.consistent, htag.quotes⟩

end Workbench
end LiquidMarkdown
