import LiquidMarkdown.Command.Answer
import LiquidMarkdown.Proofs.Annotation.Outcome
import LiquidMarkdown.Proofs.Markdown.Document

/-!
# Reports tell of every failure

The findings of a report are the errors of expressions and tags.  Blocks are left out, for a block
has failed only if one of its tags has.  This file defines:

* `Label.isFailure` — an expression or a tag that has failed;
* `Report.Finding.Describes` — a finding tells what is wrong with the construct of a label;
* `Report.forall₂_findings` — there is one finding for each failure, in the order of the document;
* `Node.Reported` — the report of a tree tells of every failure, and of nothing else;
* `annotate_ofMarkdown_reported` — the reports of Markdown documents do, and so does the exit code
  of the program.
-/

namespace LiquidMarkdown

/-- The label is an expression or a tag that has failed. -/
def Label.isFailure (l : Label) : Bool :=
  match l.kind with
  | .expression c => c.outcome == .failed
  | .tag t => t.outcome == .failed
  | _ => false

/-- All constructs of the tree were read: its expressions, its tags and its blocks. -/
def Node.AllRead (n : Node) : Prop :=
  ∀ l ∈ n.labels, ∀ c, l.kind.construct? = some c → c.isSuccess = true

namespace Report

/-! ## Findings -/

/-- The finding tells what is wrong with the construct of the label, and where it is. -/
structure Finding.Describes (f : Finding) (l : Label) : Prop where
  nodeType : f.nodeType = l.type
  construct : ∃ c, l.kind.construct? = some c ∧ c.raw = f.content ∧ c.error = some f.message
  message_ne_nil : f.message ≠ []
  tagName : f.tagName = l.kind.tag?.map (·.name)
  line : f.line = l.line
  column : f.column = l.column
  offset : f.offset = l.offset

theorem errorOf?_of_success {c : Construct} (h : c.error = none) : errorOf? c = none := by
  rw [errorOf?, h]
  rfl

theorem errorOf?_of_failed {c : Construct} {message : Text} (h : c.error = some message)
    (hne : message ≠ []) : errorOf? c = some message := by
  simp [errorOf?, h, hne]

variable {l : Label}

/-- The finding about an expression or a tag is made of its error, if there is one. -/
theorem finding?_eq {c : Construct} (hc : l.kind.construct? = some c)
    (hb : l.kind.isBlock = false) : l.isFailure = (c.outcome == .failed) ∧
      finding? l = (errorOf? c).map fun message =>
        ⟨l.type, c.raw, message, l.kind.tag?.map (·.name), l.line, l.column, l.offset⟩ := by
  unfold Label.isFailure finding?
  cases hk : l.kind with
  | plain =>
      rw [hk] at hc
      cases hc
  | expression e =>
      rw [hk] at hc
      cases hc
      exact ⟨rfl, rfl⟩
  | tag t =>
      rw [hk] at hc
      cases hc
      exact ⟨rfl, rfl⟩
  | block name e =>
      rw [hk] at hb
      cases hb

/-- There is no finding about a block, or about a node that is no construct. -/
theorem finding?_eq_none (h : l.kind.construct? = none ∨ l.kind.isBlock = true) :
    l.isFailure = false ∧ finding? l = none := by
  unfold Label.isFailure finding?
  cases hk : l.kind with
  | plain | block _ _ => exact ⟨rfl, rfl⟩
  | expression _ | tag _ =>
      rw [hk] at h
      rcases h with h | h
      · cases h
      · cases h

/-- There is a finding about an expression or a tag if it has failed. -/
theorem finding?_of_decided (h : l.Decided) :
    (l.isFailure = false ∧ finding? l = none) ∨
      (l.isFailure = true ∧ ∃ f, finding? l = some f ∧ f.Describes l) := by
  cases hc : l.kind.construct? with
  | none => exact .inl (finding?_eq_none (.inl hc))
  | some c =>
      by_cases hb : l.kind.isBlock = true
      · exact .inl (finding?_eq_none (.inr hb))
      · rcases finding?_eq hc (Bool.eq_false_iff.2 hb) with ⟨hfailure, hfinding⟩
        -- A construct that was read has no error, and one that has failed has an error to tell.
        cases h c hc with
        | success ho he =>
            rw [ho] at hfailure
            rw [errorOf?_of_success he] at hfinding
            exact .inl ⟨hfailure, hfinding⟩
        | failed ho he hne =>
            rw [ho] at hfailure
            rw [errorOf?_of_failed he hne] at hfinding
            exact .inr ⟨hfailure, _, hfinding, rfl, ⟨c, hc, rfl, he⟩, hne, rfl, rfl, rfl, rfl⟩

/-- There is one finding for each failure, in the order of the labels. -/
theorem forall₂_findings {ls : List Label} (h : ∀ l ∈ ls, l.Decided) :
    List.Forall₂ Finding.Describes (ls.filterMap finding?) (ls.filter (·.isFailure)) := by
  induction ls with
  | nil => exact .nil
  | cons l ls ih =>
      rcases List.forall_mem_cons.1 h with ⟨hl, hls⟩
      rcases finding?_of_decided hl with ⟨hno, hf⟩ | ⟨hyes, f, hf, hdescribes⟩
      · rw [List.filterMap_cons_none hf, List.filter_cons_of_neg (by simp [hno])]
        exact ih hls
      · rw [List.filterMap_cons_some hf, List.filter_cons_of_pos hyes]
        exact .cons hdescribes (ih hls)

end Report

/-! ## Reports -/

/-- No construct of the tree is left open, its report tells of every expression and every tag that
has failed, in document order, and of nothing else; and there is nothing to tell if all constructs,
blocks among them, were read. -/
structure Node.Reported (m : Node) : Prop where
  settled : ∀ l ∈ m.labels, ∀ c, l.kind.construct? = some c → c.outcome ≠ .pending
  findings : List.Forall₂ Report.Finding.Describes (Report.ofTree m).findings
    (m.labels.filter (·.isFailure))
  ok_iff : (Report.ofTree m).ok = true ↔ m.AllRead

section

variable {T : TagTables} {source : Option Text} {n m : Node}

/-- A document without failures has all its constructs read. -/
theorem allRead_of_isFailure (hn : n.Plain) (h : annotate T source (some n) = .ok m)
    (hno : ∀ l ∈ m.labels, l.isFailure = false) : m.AllRead := by
  -- An expression or a tag was read, for it is decided and has not failed.
  have hread : ∀ l ∈ m.labels, ∀ c, l.kind.construct? = some c → l.kind.isBlock = false →
      c.isSuccess = true := by
    intro l hl c hc hb
    have hfailure := (Report.finding?_eq hc hb).1
    rw [hno l hl] at hfailure
    cases annotate_decided hn h l hl c hc with
    | success ho _ => simp [Construct.isSuccess, ho]
    | failed ho _ _ => simp [ho] at hfailure
  have htags : ∀ t ∈ m.tags, t.isSuccess = true := by
    intro t ht
    rw [Node.tags_eq_filterMap] at ht
    rcases List.mem_filterMap.1 ht with ⟨l, hl, hlt⟩
    have hk := Kind.eq_tag_of_tag? hlt
    exact hread l hl t.toConstruct (by rw [hk]; rfl) (by rw [hk]; rfl)
  intro l hl c hc
  by_cases hb : l.kind.isBlock = true
  · -- A block was read, for its tags were.
    rcases Kind.exists_of_isBlock hb with ⟨name, e, hk⟩
    rw [hk] at hc
    cases hc
    rw [Node.labels_eq_map_nodes] at hl
    rcases List.mem_map.1 hl with ⟨b, hbm, rfl⟩
    rcases isSuccess_block_iff hn h hbm hk with ⟨opening, hopening, closing, hclosing, hiff⟩
    exact hiff.2 ⟨htags opening hopening, htags closing hclosing⟩
  · exact hread l hl c hc (Bool.eq_false_iff.2 hb)

/-- Where all constructs were read, nothing has failed. -/
theorem Node.AllRead.isFailure_eq_false (h : m.AllRead) {l : Label} (hl : l ∈ m.labels) :
    l.isFailure = false := by
  cases hc : l.kind.construct? with
  | none => exact (Report.finding?_eq_none (.inl hc)).1
  | some c =>
      by_cases hb : l.kind.isBlock = true
      · exact (Report.finding?_eq_none (.inr hb)).1
      · have hsuccess : c.outcome = .success := beq_iff_eq.1 (h l hl c hc)
        rw [(Report.finding?_eq hc (Bool.eq_false_iff.2 hb)).1, hsuccess]
        rfl

/-- The report of an annotated document tells of every failure, and of nothing else. -/
theorem reported_of_annotate (hn : n.Plain) (h : annotate T source (some n) = .ok m) :
    m.Reported := by
  have hdecided := annotate_decided hn h
  have hfindings := Report.forall₂_findings hdecided
  refine ⟨fun l hl c hc => (hdecided l hl c hc).outcome_ne_pending, hfindings, ?_⟩
  -- There are as many findings as failures.
  have hnil : (Report.ofTree m).ok = true ↔ m.labels.filter (·.isFailure) = [] := by
    rw [Report.ok, List.isEmpty_iff, ← List.length_eq_zero_iff, ← List.length_eq_zero_iff,
      ← hfindings.length_eq]
    rfl
  rw [hnil, List.filter_eq_nil_iff]
  constructor
  · intro hno
    exact allRead_of_isFailure hn h fun l hl => Bool.eq_false_iff.2 (hno l hl)
  · intro hread l hl
    simp [hread.isFailure_eq_false hl]

end

/-! ## Markdown documents -/

theorem Node.plain_ofElement (source : Text) (e : Markdown.Element) :
    (Node.ofElement source e).Plain :=
  fun l hl => (Node.located_ofElement source e l hl).1

/-- Whatever elements a source is taken for, the report of its document tells of every failure.  Of
the template parser nothing is used but that every problem has a wording
(`Template.Problem.message_ne_nil`), so that the same holds with any other reader of templates whose
problems have one. -/
theorem annotate_ofElement_reported (T : TagTables) (source : Text) (e : Markdown.Element) :
    ∃ m, annotate T (some source) (some (Node.ofElement source e)) = .ok m ∧ m.Reported := by
  rcases exists_annotate T (some source) (Node.annotatable_ofElement source e) with ⟨m, hm⟩
  exact ⟨m, hm, reported_of_annotate (Node.plain_ofElement source e) hm⟩

namespace Command

/-- A document that can be annotated is answered by the view of its annotated tree. -/
theorem exists_answerDocument (limit : Int) (r : Request) {source : Text} {m : Node}
    (h : annotate .standard (some source) (some (Node.ofMarkdown source)) = .ok m) :
    ∃ log, answerDocument limit r source =
      .ok { answerTree limit r.view m with log := log } := by
  rcases exists_ok_of_bind h with ⟨s, hs, _⟩
  have hjournal : ∃ es, journal .standard source (Node.ofMarkdown source) = .ok es := by
    have hs' : segmentTree .standard (some (.ofText source)) (some (Node.ofMarkdown source)) =
        .ok s := hs
    rw [journal, hs']
    exact ⟨_, rfl⟩
  rcases hjournal with ⟨es, hes⟩
  refine ⟨Journal.shown r.verbosity es, ?_⟩
  rw [answerDocument, hes, h]
  rfl

/-- The exit code of the check tells whether the report has any findings. -/
theorem exitCode_answerTree (limit : Int) (asJson : Bool) (m : Node) :
    (answerTree limit (.check asJson) m).exitCode = if (Report.ofTree m).ok then 0 else 1 := by
  cases asJson with
  | true => rfl
  | false => rfl

end Command

/-- Every Markdown text can be annotated.  No construct of it is left open; its report tells, in
document order, of every expression and every tag that has failed, and of nothing else.  The check
of a document ends with the exit code 0 if all its constructs were read, blocks among them, and with
1 if some were not.  Which constructs can be read is for the template parser to say, of which
nothing is used but `Template.Problem.message_ne_nil`. -/
theorem annotate_ofMarkdown_reported :
    (∀ (T : TagTables) (source : Text), ∃ m,
      annotate T (some source) (some (Node.ofMarkdown source)) = .ok m ∧ m.Reported) ∧
    ∀ (limit : Int) (asJson : Bool) (path : Text) (verbosity : Nat) (t : Text), ∃ m,
      annotate .standard (some t.normalizeNewlines) (some (Node.ofMarkdown t.normalizeNewlines)) =
        .ok m ∧
      ((Command.answer limit ⟨.check asJson, path, verbosity⟩ (.document t)).exitCode = 0 ∧
          m.AllRead ∨
        (Command.answer limit ⟨.check asJson, path, verbosity⟩ (.document t)).exitCode = 1 ∧
          ¬ m.AllRead) := by
  constructor
  · intro T source
    exact annotate_ofElement_reported T source (Markdown.Element.ofText source)
  · intro limit asJson path verbosity t
    rcases annotate_ofElement_reported .standard t.normalizeNewlines
      (Markdown.Element.ofText t.normalizeNewlines) with ⟨m, hm, hreported⟩
    rcases Command.exists_answerDocument limit ⟨.check asJson, path, verbosity⟩ hm with
      ⟨log, hanswer⟩
    have hcode : (Command.answer limit ⟨.check asJson, path, verbosity⟩ (.document t)).exitCode =
        if (Report.ofTree m).ok then 0 else 1 := by
      rw [Command.answer, hanswer]
      exact Command.exitCode_answerTree limit asJson m
    refine ⟨m, hm, ?_⟩
    rw [hcode]
    cases hok : (Report.ofTree m).ok with
    | true => exact .inl ⟨rfl, hreported.ok_iff.1 hok⟩
    | false =>
        refine .inr ⟨rfl, fun hread => ?_⟩
        rw [hreported.ok_iff.2 hread] at hok
        cases hok

end LiquidMarkdown
