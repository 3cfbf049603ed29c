import LiquidMarkdown.Markdown.Document
import LiquidMarkdown.Proofs.Document.Tree
import LiquidMarkdown.Proofs.Markdown.Paragraph

/-!
# The texts of a paragraph

The document of a paragraph has one text for each run and one for each emphasised word.  This file
defines:

* `textPlaces` — the texts of a document, with the places at which they start;
* `Shows`, `Reads` — the elements that a paragraph is read as;
* `Holds` — the element of a source that is one paragraph.

The walk through the elements is the search for the parts (`textPlaces_inlineNodes`).  The texts of
the document start where they were written just in case nothing is in their way
(`textPlaces_ofElement_iff`); nothing is where line breaks lose nothing and code is on one line
(`textPlaces_of_isWhole`).
-/

namespace LiquidMarkdown
namespace Markdown
namespace Paragraph

/-! ## Elements -/

/-- The texts of some nodes, with the places at which they start. -/
def textPlaces (ns : List Node) : List (Text × Option Int) :=
  ((Node.labelsAll ns).filter (·.type = Label.textType)).map fun l => (l.value.getD [], l.offset)

/-- Texts and line breaks, one after another, and what they show. -/
inductive Shows : List Element → Text → Prop where
  | nil : Shows [] []
  | text {h : Element.Head} {ks es : List Element} {t : Text} (type : h.type = Element.textType)
      (rest : Shows es t) : Shows (.node h ks :: es) (h.content ++ t)
  | lineBreak {h : Element.Head} {ks es : List Element} {t : Text}
      (type : h.type = Element.softBreakType) (rest : Shows es t) :
      Shows (.node h ks :: es) ('\n' :: t)

/-- The elements that the parts of a paragraph are read as: texts and line breaks for a run, one
text in an emphasis, and code as it is shown. -/
inductive Reads : List Part → List Element → Prop where
  | nil : Reads [] []
  | run {r : Run} {parts : List Part} {es rest : List Element} (shows : Shows es r.shown)
      (h : Reads parts rest) : Reads (.run r :: parts) (es ++ rest)
  | emphasis {word : Text} {parts : List Part} {h k : Element.Head} {ks rest : List Element}
      (type : h.type = ("em" : Text)) (lines : h.lines = none) (text : k.type = Element.textType)
      (content : k.content = word) (inner : k.lines = none) (reads : Reads parts rest) :
      Reads (.emphasis word :: parts) (.node h [.node k ks] :: rest)
  | code {content : Text} {parts : List Part} {h : Element.Head} {ks rest : List Element}
      (type : h.type = ("code_inline" : Text)) (lines : h.lines = none)
      (shown : h.content = shownCode content) (reads : Reads parts rest) :
      Reads (.code content :: parts) (.node h ks :: rest)

/-- The element of a source that is one paragraph, with the given elements in it. -/
inductive Holds (source : Text) (es : List Element) : Element → Prop where
  | paragraph {root p i : Element.Head} (type : p.type = ("paragraph" : Text))
      (lines : p.lines = some (0, ((source.count '\n' + 1 : Nat) : Int)))
      (running : i.type = Element.inlineType) : Holds source es (.node root [.node p [.node i es]])

section Walk

variable {source t : Text} {cursor : Nat} {parts : List Part} {es rest : List Element}

@[simp] theorem textPlaces_append (ns ms : List Node) :
    textPlaces (ns ++ ms) = textPlaces ns ++ textPlaces ms := by
  simp [textPlaces, Node.labelsAll_append]

theorem textPlaces_cons (n : Node) (ns : List Node) :
    textPlaces (n :: ns) = textPlaces [n] ++ textPlaces ns :=
  textPlaces_append [n] ns

/-- A node that is no text has the texts of its children. -/
theorem textPlaces_branch {l : Label} (hl : l.type ≠ Label.textType) (ns : List Node) :
    textPlaces [.branch l ns] = textPlaces ns := by
  simp [textPlaces, Node.labelsAll, Node.labels, hl]

/-- The text of a node starts where it is located. -/
theorem textNode_eq (source t : Text) (cursor : Nat) :
    textPlaces [((Walk.ofText source).textNode t cursor).1] = [(t, beginning? source t cursor)] ∧
      ((Walk.ofText source).textNode t cursor).2 = placeBehind source t cursor := by
  have hlocate : (Walk.ofText source).locate? t cursor = locate? source source.length t cursor :=
    rfl
  unfold Walk.textNode
  cases h : locate? source source.length t cursor with
  | none =>
      rw [hlocate, h]
      simp [textPlaces, Node.labelsAll, Node.labels, Node.leaf, beginning?, placeBehind, h,
        Label.offset]
  | some r =>
      have hoffset := offset_of_locate? h
      rw [hlocate, h]
      simpa [textPlaces, Node.labelsAll, Node.labels, Node.leaf, beginning?, placeBehind, h,
        Label.offset,
        Function.comp_def, Walk.ofText] using hoffset

theorem passOver_eq (source t : Text) (cursor : Nat) :
    (Walk.ofText source).passOver t cursor = placeBehind source t cursor :=
  rfl

/-! ## The walk through the elements -/

theorem runText?_of_softBreak {h : Element.Head} (type : h.type = Element.softBreakType) :
    Walk.runText? h = some ['\n'] := by
  rw [Walk.runText?, type]
  rfl

/-- Texts and line breaks are put together. -/
theorem inlineNodes_shows (w : Walk) (h : Shows es t) (rest : List Element) (u : Text)
    (cursor : Nat) :
    w.inlineNodes (some u) cursor (es ++ rest) = w.inlineNodes (some (u ++ t)) cursor rest := by
  induction h generalizing u with
  | nil => rw [List.nil_append, List.append_nil]
  | @text h ks es t type _ ih =>
      have hrun : Walk.runText? h = some h.content := if_pos type
      rw [List.cons_append, Walk.inlineNodes, hrun]
      simp only [Option.getD_some]
      rw [ih, List.append_assoc]
  | @lineBreak h ks es t type _ ih =>
      rw [List.cons_append, Walk.inlineNodes, runText?_of_softBreak type]
      simp only [Option.getD_some]
      rw [ih, List.append_assoc, List.singleton_append]

/-- A run is put together from its first element on. -/
theorem inlineNodes_run (w : Walk) (h : Shows es t) (hne : t ≠ []) (rest : List Element)
    (cursor : Nat) :
    w.inlineNodes none cursor (es ++ rest) = w.inlineNodes (some t) cursor rest := by
  cases h with
  | nil => exact absurd rfl hne
  | @text h ks es t type h' =>
      have hrun : Walk.runText? h = some h.content := if_pos type
      rw [List.cons_append, Walk.inlineNodes, hrun]
      exact inlineNodes_shows w h' rest h.content cursor
  | @lineBreak h ks es t type h' =>
      rw [List.cons_append, Walk.inlineNodes, runText?_of_softBreak type]
      exact inlineNodes_shows w h' rest ['\n'] cursor

/-- A run ends before an element that is neither a text nor a line break. -/
theorem inlineNodes_flush (w : Walk) (h : ∀ e ∈ es.head?, Walk.runText? e.head = none)
    (cursor : Nat) :
    (w.inlineNodes (some t) cursor es).1 =
      (w.textNode t cursor).1 :: (w.inlineNodes none (w.textNode t cursor).2 es).1 := by
  cases es with
  | nil => simp [Walk.inlineNodes, Walk.textNodes]
  | cons e es =>
      obtain ⟨h', ks⟩ := e
      have hrun : Walk.runText? h' = none := h _ rfl
      simp [Walk.inlineNodes, hrun, Walk.textNodes]

/-- The walk through an emphasis finds its word. -/
theorem node_emphasis (source : Text) (cursor : Nat) {h k : Element.Head} (ks : List Element)
    (htype : h.type = ("em" : Text)) (hlines : h.lines = none)
    (htext : k.type = Element.textType) (hinner : k.lines = none) :
    textPlaces [((Walk.ofText source).node cursor (.node h [.node k ks])).1] =
        [(k.content, beginning? source k.content cursor)] ∧
      ((Walk.ofText source).node cursor (.node h [.node k ks])).2 =
        placeBehind source k.content cursor := by
  have hliteral : h.isLiteral = false := by
    rw [Element.Head.isLiteral, htype]
    decide
  have hbreak : h.isBreak = false := by
    rw [Element.Head.isBreak, htype]
    decide
  have hne : h.type ≠ Element.textType := by
    rw [htype]
    decide
  have hword : (Walk.ofText source).node cursor (.node k ks) =
      (Walk.ofText source).textNode k.content cursor := by
    have hplain : k.isLiteral = false := by
      rw [Element.Head.isLiteral, htext]
      decide
    simp [Walk.node, Walk.blockPosition, hinner, hplain, htext]
  have hrunning : k.type ≠ Element.inlineType := by
    rw [htext]
    decide
  have hnode : (Walk.ofText source).node cursor (.node h [.node k ks]) =
      (.branch { type := h.type, position := none, data := h.branchData }
        [((Walk.ofText source).textNode k.content cursor).1],
        ((Walk.ofText source).textNode k.content cursor).2) := by
    rw [Walk.node]
    simp [Walk.blockPosition, hlines, hliteral, hbreak, hne, Walk.inside, Walk.blockNodes,
      hrunning, hword]
  rw [hnode, textPlaces_branch hne]
  exact textNode_eq source k.content cursor

/-- The walk through code passes over it. -/
theorem node_code (source : Text) (cursor : Nat) {h : Element.Head} (ks : List Element)
    (htype : h.type = ("code_inline" : Text))
    (hlines : h.lines = none) :
    textPlaces [((Walk.ofText source).node cursor (.node h ks)).1] = [] ∧
      ((Walk.ofText source).node cursor (.node h ks)).2 = placeBehind source h.content cursor := by
  have hliteral : h.isLiteral = true := by
    rw [Element.Head.isLiteral, htype]
    decide
  have hne : h.type ≠ Label.textType := by
    rw [htype]
    decide
  have hnode : (Walk.ofText source).node cursor (.node h ks) =
      (.leaf { type := h.type, value := some h.content, position := none, data := h.data },
        (Walk.ofText source).passOver h.content cursor) := by
    rw [Walk.node]
    simp [Walk.blockPosition, hlines, hliteral]
  rw [hnode]
  exact ⟨textPlaces_branch hne [], passOver_eq source h.content cursor⟩

theorem runText?_of_emphasis {h : Element.Head} (type : h.type = ("em" : Text)) :
    Walk.runText? h = none := by
  rw [Walk.runText?, type]
  rfl

theorem runText?_of_code {h : Element.Head} (type : h.type = ("code_inline" : Text)) :
    Walk.runText? h = none := by
  rw [Walk.runText?, type]
  rfl

/-- No text and no line break stands behind a run. -/
theorem runText?_behind {r : Run} (h : Reads parts es)
    (happart : (Part.run r :: parts).IsChain Part.Parted) :
    ∀ e ∈ es.head?, Walk.runText? e.head = none := by
  cases h with
  | nil => exact fun e he => by cases he
  | run => exact absurd (List.isChain_cons_cons.1 happart).1 id
  | emphasis type =>
      rintro e ⟨⟩
      exact runText?_of_emphasis type
  | code type =>
      rintro e ⟨⟩
      exact runText?_of_code type

/-- An element that is no text ends no run where there is none. -/
theorem inlineNodes_cons (w : Walk) {h : Element.Head} {ks : List Element}
    (hrun : Walk.runText? h = none) (cursor : Nat) (es : List Element) :
    (w.inlineNodes none cursor (.node h ks :: es)).1 = (w.node cursor (.node h ks)).1 ::
      (w.inlineNodes none (w.node cursor (.node h ks)).2 es).1 := by
  simp [Walk.inlineNodes, hrun, Walk.textNodes]

/-- The walk through the elements of a paragraph is the search for its parts. -/
theorem textPlaces_inlineNodes (h : Reads parts es) (hproper : ∀ p ∈ parts, p.Proper)
    (happart : parts.IsChain Part.Parted) :
    textPlaces ((Walk.ofText source).inlineNodes none cursor es).1 = found source cursor parts := by
  induction h generalizing cursor with
  | nil => rfl
  | @run r parts es rest shows h ih =>
      obtain ⟨hr, hparts⟩ := List.forall_mem_cons.1 hproper
      obtain ⟨hplaces, hbehind⟩ := textNode_eq source r.shown cursor
      have hne : r.shown ≠ [] := Run.Proper.ne_nil hr
      rw [inlineNodes_run _ shows hne, inlineNodes_flush _ (runText?_behind h happart),
        textPlaces_cons,
        hplaces, hbehind, ih hparts happart.tail]
      rfl
  | @emphasis word parts h k ks rest type lines text content inner _ ih =>
      obtain ⟨hplaces, hbehind⟩ := node_emphasis source cursor ks type lines text inner
      rw [inlineNodes_cons _ (runText?_of_emphasis type), textPlaces_cons, hplaces, hbehind,
        ih (List.forall_mem_cons.1 hproper).2 happart.tail, content]
      rfl
  | @code content parts h ks rest type lines shown _ ih =>
      obtain ⟨hplaces, hbehind⟩ := node_code source cursor ks type lines
      rw [inlineNodes_cons _ (runText?_of_code type), textPlaces_cons, hplaces, hbehind,
        ih (List.forall_mem_cons.1 hproper).2 happart.tail, shown]
      rfl

end Walk

/-! ## Documents -/

/-- The parts of a paragraph can be told apart, and the first of them does not begin with a line
break. -/
structure Proper (parts : List Part) : Prop where
  part : ∀ p ∈ parts, p.Proper
  parted : parts.IsChain Part.Parted
  first : ∀ r, parts.head? = some (.run r) → r.first ≠ []

section Documents

variable {source : Text} {parts : List Part} {es : List Element} {e : Element}

/-- A paragraph begins with its source and ends with it. -/
theorem blockPosition_paragraph {p : Element.Head}
    (hlines : p.lines = some (0, ((source.count '\n' + 1 : Nat) : Int))) :
    ∃ position, (Walk.ofText source).blockPosition p 0 = (some position, 0) ∧
      (Walk.ofText source).inside (some position) = Walk.ofText source := by
  have hcount : (LineIndex.ofText source).starts.length = source.count '\n' + 1 :=
    LineIndex.length_lineStarts source
  have hfirst : (LineIndex.ofText source).lineOffset 0 = 0 := by
    rw [LineIndex.lineOffset, if_neg (by omega)]
    rfl
  have hlast : (LineIndex.ofText source).lineOffset ((source.count '\n' + 1 : Nat) : Int) =
      source.length := by
    rw [LineIndex.lineOffset, if_pos (by omega)]
    rfl
  have hend : ((LineIndex.ofText source).clamp (source.length : Int)) = source.length :=
    LineIndex.clamp_of_le (Nat.le_refl _)
  refine ⟨(LineIndex.ofText source).position 0 source.length, ?_, ?_⟩
  · unfold Walk.blockPosition
    rw [hlines]
    simp only [Walk.ofText, hfirst, hlast]
    simp
  · simp [Walk.inside, Walk.ofText, LineIndex.position, LineIndex.point, hend]

/-- The walk goes through a paragraph from its start to its end. -/
theorem textPlaces_ofElement (h : Holds source es e) : textPlaces [Node.ofElement source e] =
    textPlaces ((Walk.ofText source).inlineNodes none 0 es).1 := by
  obtain @⟨root, p, i, type, lines, running⟩ := h
  obtain ⟨position, hposition, hinside⟩ := blockPosition_paragraph lines
  have hliteral : p.isLiteral = false := by
    rw [Element.Head.isLiteral, type]
    decide
  have hbreak : p.isBreak = false := by
    rw [Element.Head.isBreak, type]
    decide
  have htext : p.type ≠ Element.textType := by
    rw [type]
    decide
  have hblock : p.type ≠ Element.inlineType := by
    rw [type]
    decide
  have hroot : Element.rootType ≠ Label.textType := by decide
  have hinner : ((Walk.ofText source).blockNodes 0 [.node i es]).1 =
      ((Walk.ofText source).inlineNodes none 0 es).1 := by
    simp [Walk.blockNodes, running]
  have hnode : ((Walk.ofText source).node 0 (.node p [.node i es])).1 =
      .branch { type := p.type, position := some position, data := p.branchData }
        ((Walk.ofText source).inlineNodes none 0 es).1 := by
    rw [Walk.node, hposition]
    simp [hliteral, hbreak, htext, hinside, hinner]
  have hblocks : ((Walk.ofText source).blockNodes 0 [.node p [.node i es]]).1 =
      [((Walk.ofText source).node 0 (.node p [.node i es])).1] := by
    simp [Walk.blockNodes, hblock]
  rw [Node.ofElement, textPlaces_branch hroot, Element.children, hblocks, hnode,
    textPlaces_branch htext]

/-- The texts of a paragraph are those that the search for its parts finds. -/
theorem textPlaces_eq_found (hproper : Proper parts) (hreads : Reads parts es)
    (hholds : Holds source es e) : textPlaces [Node.ofElement source e] = found source 0 parts := by
  rw [textPlaces_ofElement hholds, textPlaces_inlineNodes hreads hproper.part hproper.parted]

theorem Proper.found_iff (h : Proper parts) :
    found (written parts) 0 parts = leaves 0 parts ↔ Clear [] parts := by
  have hsource : written parts = [] ++ ([] ++ written parts) := rfl
  have hgap : Leads [] parts := fun r hr => .inl ⟨rfl, h.first r hr⟩
  exact Paragraph.found_iff h.part h.parted hgap hsource

/-- Every text of a paragraph starts where it was written, just in case no text is found before its
place. -/
theorem textPlaces_ofElement_iff (hproper : Proper parts) (hreads : Reads parts es)
    (hholds : Holds (written parts) es e) :
    textPlaces [Node.ofElement (written parts) e] = leaves 0 parts ↔ Clear [] parts := by
  rw [textPlaces_eq_found hproper hreads hholds]
  exact hproper.found_iff

/-- Code and a run that are broken over lines are not found as they are shown, and nothing is found
in their place. -/
theorem textPlaces_ofElement_broken :
    Proper [.emphasis "w", .code "c\nd", .run ⟨" e", [⟨[], "  ", "f"⟩]⟩] ∧
      Clear [] [.emphasis "w", .code "c\nd", .run ⟨" e", [⟨[], "  ", "f"⟩]⟩] ∧
        textPlaces [Node.ofElement "*w*`c\nd` e\n  f" (.node { type := "root" }
          [.node { type := "paragraph", lines := some (0, 3) } [.node { type := "inline" }
            [.node { type := "em" } [.text "w"],
            .node { type := "code_inline", content := "c d" } [],
              .text " e", .node { type := "softbreak" } [], .text "f"]]])] =
          [⟨"w", some 1⟩, ⟨" e\nf", some 8⟩] := by
  have hrun : (Run.mk " e" [⟨[], "  ", "f"⟩]).Proper :=
    ⟨by decide, by decide, List.forall_mem_singleton.2
      ⟨.inl rfl, List.all_eq_true.1 rfl, by decide, by rintro _ ⟨⟩; decide⟩, by simp⟩
  have hcode : (Part.code "c\nd").Proper := ⟨by decide, by decide, by simp, by simp⟩
  have hproper : Proper [.emphasis "w", .code "c\nd", .run ⟨" e", [⟨[], "  ", "f"⟩]⟩] :=
    ⟨List.forall_mem_cons.2 ⟨⟨by decide, by decide⟩, List.forall_mem_cons.2 ⟨hcode,
      List.forall_mem_singleton.2 hrun⟩⟩, by simp [Part.Parted], fun r hr => by cases hr⟩
  have hclear : Clear [] [.emphasis "w", .code "c\nd", .run ⟨" e", [⟨[], "  ", "f"⟩]⟩] := by
    decide
  have hshows : Shows [.text " e", .node { type := "softbreak" } [], .text "f"]
      (Run.mk " e" [⟨[], "  ", "f"⟩]).shown :=
    .text rfl (.lineBreak rfl (.text rfl .nil))
  have hreads : Reads [.emphasis "w", .code "c\nd", .run ⟨" e", [⟨[], "  ", "f"⟩]⟩]
      [.node { type := "em" } [.text "w"], .node { type := "code_inline", content := "c d" } [],
        .text " e", .node { type := "softbreak" } [], .text "f"] :=
    .emphasis rfl rfl rfl rfl rfl <| .code rfl rfl rfl <| .run hshows .nil
  exact ⟨hproper, hclear,
    (textPlaces_ofElement_iff hproper hreads (.paragraph rfl (by decide) rfl)).2 hclear⟩

/-- Code that is broken over lines is found in a text behind it, which is not found then. -/
example : ¬ Clear [] [.code "a\nb", .run ⟨" a b", []⟩] := by
  decide

/-- Where line breaks lose nothing and code is on one line, every text starts where it was written.
-/
theorem textPlaces_of_isWhole (hproper : Proper parts) (hreads : Reads parts es)
    (hholds : Holds (written parts) es e) (hwhole : ∀ p ∈ parts, p.IsWhole) :
    textPlaces [Node.ofElement (written parts) e] = leaves 0 parts := by
  rw [textPlaces_eq_found hproper hreads hholds]
  exact hproper.found_iff.2 (clear_of_isWhole hproper.part hwhole (by simp))

end Documents

end Paragraph
end Markdown
end LiquidMarkdown
