import LiquidMarkdown.Construct.TagSpan

/-!
# Pieces of a text

A text falls into plain text, printed expressions, tags and whole blocks, from left to right.  This
file defines:

* `Piece` — a piece, and `Piece.source`, the text that it covers;
* `nextOpening?` — the first delimiter that opens something;
* `pieces` — the pieces of a text;
* `unclosed?` — the construct at its end that is never closed;
* `joined_pieces` — the pieces cover the text.

A construct that is never closed is plain text, apart from the text before it.
-/

namespace LiquidMarkdown

/-- A piece of a text. -/
inductive Piece where
  | text (t : Text)
  | expression (raw : Text)
  | tag (raw : Text)
  /-- A block with its opening tag, its body and its closing tag. -/
  | block (opening body closing : Text) (isVerbatim : Bool)
  deriving DecidableEq, Repr

namespace Piece

/-- The text that a piece covers. -/
def source : Piece → Text
  | text t => t
  | expression raw => raw
  | tag raw => raw
  | block opening body closing _ => opening ++ body ++ closing

end Piece

/-- Is a tag opened, or else a printed expression? -/
def opensTag? : Text → Option (Bool × Text)
  | '{' :: '{' :: t => some (false, t)
  | '{' :: '%' :: t => some (true, t)
  | _ => none

/-- The text before the first delimiter that opens a construct, whether the construct is a tag, and
the text inside. -/
def nextOpening? : Text → Option (Text × Bool × Text)
  | [] => none
  | c :: cs => match opensTag? (c :: cs) with
      | some (isTag, inside) => some ([], isTag, inside)
      | none => (nextOpening? cs).map fun (before, r) => (c :: before, r)

/-- The delimiters of a tag or of a printed expression. -/
def delimitersOf (isTag : Bool) : Delimiters :=
  if isTag then .tag else .expression

theorem eq_of_nextOpening? {t before inside : Text} {isTag : Bool}
    (h : nextOpening? t = some (before, isTag, inside)) :
    t = before ++ (delimitersOf isTag).opening ++ inside := by
  induction t generalizing before with
  | nil => simp [nextOpening?] at h
  | cons c cs ih =>
      simp only [nextOpening?] at h
      split at h
      · next isTag' inside' ho =>
          cases h
          simp only [opensTag?] at ho
          split at ho
          · cases ho; simp_all [delimitersOf, Delimiters.expression]
          · cases ho; simp_all [delimitersOf, Delimiters.tag]
          · simp at ho
      · obtain ⟨⟨b, r⟩, hbr, hbs⟩ := Option.map_eq_some_iff.1 h
        cases hbs
        simp [ih hbr]

/-- The piece for a plain text, unless it is empty. -/
def textPiece (t : Text) : List Piece :=
  if t = [] then [] else [.text t]

/-- The piece that begins with a tag of the given content, where `rest` is behind the tag; and the
text behind the piece.  A tag that opens a block goes on to the end of the block, if there is
one. -/
def tagPiece (T : TagTables) (content rest : Text) : Piece × Text :=
  let raw := Delimiters.tag.wrap content
  let name := Tag.nameOf content
  match (if T.isBlockStart name then blockEnd? T name rest else none) with
  | some e => (.block raw e.body e.raw (T.isVerbatim name), e.rest)
  | none => (.tag raw, rest)

theorem eq_of_tagPiece (T : TagTables) (content rest : Text) :
    Delimiters.tag.wrap content ++ rest =
      (tagPiece T content rest).1.source ++ (tagPiece T content rest).2 := by
  simp only [tagPiece]
  split
  · next e he =>
      split at he
      · simp only [Piece.source, List.append_assoc]
        congr 1
        simpa using eq_of_blockEnd? he
      · simp at he
  · simp [Piece.source]

/-- The piece for a construct that was opened and the text behind it, if the construct is
closed. -/
def constructPiece? (T : TagTables) (isTag : Bool) (inside : Text) : Option (Piece × Text) :=
  (Text.breakOn (delimitersOf isTag).closing inside).map fun (content, rest) =>
    if isTag then tagPiece T content rest
    else (.expression (Delimiters.expression.wrap content), rest)

theorem eq_of_constructPiece? {T : TagTables} {isTag : Bool} {inside rest : Text} {p : Piece}
    (h : constructPiece? T isTag inside = some (p, rest)) :
    (delimitersOf isTag).opening ++ inside = p.source ++ rest := by
  obtain ⟨⟨content, r⟩, hb, hp⟩ := Option.map_eq_some_iff.1 h
  rw [Text.breakOn_eq_some hb]
  cases isTag with
  | true =>
      have := eq_of_tagPiece T content r
      simp only [if_true] at hp
      rw [hp] at this
      simpa [delimitersOf, Delimiters.wrap] using this
  | false =>
      simp only [Bool.false_eq_true, if_false] at hp
      cases hp
      simp [delimitersOf, Delimiters.wrap, Piece.source]

theorem length_lt_of_opening {T : TagTables} {t before inside rest : Text} {isTag : Bool}
    {p : Piece} (h₁ : nextOpening? t = some (before, isTag, inside))
    (h₂ : constructPiece? T isTag inside = some (p, rest)) : rest.length < t.length := by
  obtain ⟨⟨content, r⟩, hb, hp⟩ := Option.map_eq_some_iff.1 h₂
  have hi := congrArg List.length (Text.breakOn_eq_some hb)
  have ht := congrArg List.length (eq_of_nextOpening? h₁)
  have hc := congrArg List.length (eq_of_constructPiece? h₂)
  have hr : rest.length ≤ r.length := by
    cases isTag with
    | true =>
        simp only [if_true] at hp
        have := congrArg List.length (eq_of_tagPiece T content r)
        rw [hp] at this
        simp only [tagPiece] at hp
        split at hp
        · next e he =>
            split at he
            · cases hp
              have := congrArg List.length (eq_of_blockEnd? he)
              simp only [List.length_append] at this
              omega
            · simp at he
        · cases hp
          exact Nat.le_refl _
    | false =>
        simp only [Bool.false_eq_true, if_false] at hp
        cases hp
        exact Nat.le_refl _
  -- The delimiter that opens the construct is not behind it.
  have ho : 0 < (delimitersOf isTag).opening.length := by
    cases isTag <;> decide
  simp only [List.length_append] at hi ht
  omega

/-- The pieces of a text. -/
def pieces (T : TagTables) (t : Text) : List Piece :=
  match _h₁ : nextOpening? t with
  | none => textPiece t
  | some (before, isTag, inside) =>
      match _h₂ : constructPiece? T isTag inside with
      | none => textPiece before ++ textPiece ((delimitersOf isTag).opening ++ inside)
      | some (p, rest) => textPiece before ++ p :: pieces T rest
termination_by t.length
decreasing_by exact length_lt_of_opening _h₁ _h₂

/-- The construct that is opened and never closed: whether it is a tag, and where it starts.  Only
the last piece can be one, for no other plain text begins with an opening delimiter. -/
def unclosed? (T : TagTables) (t : Text) : Option (Bool × Nat) :=
  match (pieces T t).getLast? with
  | some (.text u) => (opensTag? u).map fun (isTag, _) => (isTag, t.length - u.length)
  | _ => none

/-- The pieces of a text cover it. -/
theorem joined_pieces (T : TagTables) (t : Text) : (pieces T t).flatMap Piece.source = t := by
  have htext : ∀ u : Text, (textPiece u).flatMap Piece.source = u := by
    intro u
    simp only [textPiece]
    split
    · next h => simp [h]
    · simp [Piece.source]
  fun_induction pieces T t with
  | case1 t h => exact htext t
  | case2 t before isTag inside h₁ h₂ =>
      rw [List.flatMap_append, htext, htext, eq_of_nextOpening? h₁, List.append_assoc]
  | case3 t before isTag inside h₁ p rest h₂ ih =>
      rw [List.flatMap_append, htext, List.flatMap_cons, ih, ← eq_of_constructPiece? h₂,
        eq_of_nextOpening? h₁, List.append_assoc]

/-- The text that holds a block holds its body and the delimiters of its opening tag. -/
theorem length_body_add_le {T : TagTables} {t opening body closing : Text} {isVerbatim : Bool}
    (h : Piece.block opening body closing isVerbatim ∈ pieces T t) :
    body.length + 4 ≤ t.length := by
  fun_induction pieces T t with
  | case1 t _ =>
      simp only [textPiece] at h
      split at h <;> simp at h
  | case2 t before isTag inside _ _ =>
      simp only [textPiece, List.mem_append] at h
      rcases h with h | h <;> split at h <;> simp at h
  | case3 t before isTag inside h₁ p rest h₂ ih =>
      have hlt := length_lt_of_opening h₁ h₂
      simp only [List.mem_append, List.mem_cons] at h
      rcases h with h | h | h
      · simp only [textPiece] at h
        split at h <;> simp at h
      · obtain ⟨⟨content, r⟩, hb, hp⟩ := Option.map_eq_some_iff.1 h₂
        have ht := congrArg List.length (eq_of_nextOpening? h₁)
        have hc := congrArg List.length (eq_of_constructPiece? h₂)
        subst h
        -- The opening tag alone takes four characters.
        have ho : 4 ≤ opening.length := by
          cases isTag with
          | true =>
              simp only [if_true, tagPiece] at hp
              split at hp
              · cases hp
                simp only [Delimiters.wrap, Delimiters.tag, List.length_append, List.length_cons]
                omega
              · cases hp
          | false => simp at hp
        simp only [Piece.source, List.length_append] at ht hc
        omega
      · exact Nat.le_trans (ih h) (Nat.le_of_lt hlt)

end LiquidMarkdown
