/-!
# Text

Text is a list of characters, so that every offset counts characters and every scanner is a
recursion on the list.  This file defines:

* `Text` — the type, with string literals accepted in its place;
* `Text.dropPrefix?` — the rest after a given beginning;
* `Text.breakOn` — the parts around the first occurrence of a pattern, with its
  characterisation `Text.breakOn_eq_some`;
* `Text.find?` — the offset of the first occurrence;
* `Text.splitAt` — the fields between occurrences of one character;
* `Text.joinWith`, `Text.replace`, `Text.ofNat`, `Text.ofInt`.
-/

namespace LiquidMarkdown

/-- A text: its characters in order. -/
abbrev Text := List Char

instance : Coe String Text := ⟨String.toList⟩

/-- Whether a text is in a list is decided by comparing texts. -/
instance : LawfulBEq Text := inferInstance

namespace Text

/-! ## Beginnings -/

/-- The rest of the text after `p`, if the text begins with `p`. -/
def dropPrefix? : Text → Text → Option Text
  | [], t => some t
  | _ :: _, [] => none
  | p :: ps, c :: cs => if p = c then dropPrefix? ps cs else none

theorem dropPrefix?_eq_some {p t r : Text} : dropPrefix? p t = some r ↔ t = p ++ r := by
  induction p generalizing t with
  | nil => simp [dropPrefix?, eq_comm]
  | cons a p ih =>
      cases t with
      | nil => simp [dropPrefix?]
      | cons c cs =>
          by_cases h : a = c
          · subst h; simp [dropPrefix?, ih]
          · simp [dropPrefix?, h, Ne.symm h]

/-- Does the text begin with `p`? -/
def startsWith (p t : Text) : Bool :=
  (dropPrefix? p t).isSome

/-! ## Occurrences -/

/-- The parts of the text before and after the first occurrence of `p`. -/
def breakOn (p : Text) : Text → Option (Text × Text)
  | [] => (dropPrefix? p []).map fun r => ([], r)
  | c :: cs =>
      match dropPrefix? p (c :: cs) with
      | some r => some ([], r)
      | none => (breakOn p cs).map fun (a, b) => (c :: a, b)

/-- Cutting at an occurrence loses nothing. -/
theorem breakOn_eq_some {p t a b : Text} (h : breakOn p t = some (a, b)) : t = a ++ p ++ b := by
  induction t generalizing a b with
  | nil =>
      simp only [breakOn, Option.map_eq_some_iff] at h
      obtain ⟨r, hr, hab⟩ := h
      cases hab
      simpa using dropPrefix?_eq_some.1 hr
  | cons c cs ih =>
      simp only [breakOn] at h
      split at h
      · next r hr =>
          cases h
          simpa using dropPrefix?_eq_some.1 hr
      · simp only [Option.map_eq_some_iff] at h
        obtain ⟨⟨x, y⟩, hxy, hab⟩ := h
        cases hab
        simp [ih hxy]

/-- The part after an occurrence of a non-empty pattern is shorter than the text. -/
theorem length_lt_of_breakOn {p t a b : Text} (hp : p ≠ []) (h : breakOn p t = some (a, b)) :
    b.length < t.length := by
  have hl : 0 < p.length := List.length_pos_iff.2 hp
  rw [breakOn_eq_some h]
  simp only [List.length_append]
  omega

/-- The offset of the first occurrence of `p`. -/
def find? (p t : Text) : Option Nat :=
  (breakOn p t).map (·.1.length)

/-- The offset of the first occurrence of `p` that starts at `start` or later. -/
def findFrom? (p : Text) (start : Nat) (t : Text) : Option Nat :=
  if start ≤ t.length then (find? p (t.drop start)).map (start + ·) else none

/-! ## Fields -/

/-- The fields of the text between the occurrences of `sep`. -/
def splitAt (sep : Char) : Text → List Text
  | [] => [[]]
  | c :: cs =>
      if c = sep then [] :: splitAt sep cs
      else match splitAt sep cs with
        | [] => [[c]]
        | f :: fs => (c :: f) :: fs

/-- The texts one after another, with `sep` between neighbours. -/
def joinWith (sep : Text) (ts : List Text) : Text :=
  List.intercalate sep ts

/-- Every occurrence of the character replaced by a text. -/
def replace (old : Char) (new : Text) (t : Text) : Text :=
  t.flatMap fun c => if c = old then new else [c]

/-! ## Numbers and order -/

/-- The decimal digits of a number. -/
def ofNat (n : Nat) : Text :=
  Nat.toDigits 10 n

/-- The decimal digits of a number, with a sign if it is negative. -/
def ofInt : Int → Text
  | .ofNat n => ofNat n
  | .negSucc n => '-' :: ofNat (n + 1)

/-- The order of texts by code points: the first difference decides, a beginning comes first. -/
def le : Text → Text → Bool
  | [], _ => true
  | _ :: _, [] => false
  | a :: as, b :: bs => a.toNat < b.toNat || a == b && le as bs

/-- The texts in ascending order, each once. -/
def sortedSet (ts : List Text) : List Text :=
  ts.eraseDups.mergeSort le

/-- The text as a string. -/
abbrev toString (t : Text) : String :=
  String.ofList t

end Text

end LiquidMarkdown
