import LiquidMarkdown.Markdown.Character

/-!
# Names in ASCII

A part of a host name with characters beyond ASCII is written as its ASCII characters, a hyphen,
and the differences between the others in ascending order, as numbers of variable length with 36
digits whose thresholds adapt to the differences seen so far.  This file defines:

* `Punycode.encode` — the written form of a text;
* `Punycode.decode?` — the text of a written form.
-/

namespace LiquidMarkdown
namespace Markdown
namespace Punycode

/-! ## Digits and thresholds -/

/-- The least code point that is not written as itself. -/
def firstExtended : Nat := 0x80

/-- The bias before any difference was seen. -/
def firstBias : Nat := 72

/-- The digit of a value: the letters, then the decimal digits. -/
def digit (d : Nat) : Char :=
  if d < 26 then Char.ofNat (0x61 + d) else Char.ofNat (0x30 + d - 26)

/-- The value of a digit, in lower case. -/
def digitValue? (c : Char) : Option Nat :=
  if 'a' ≤ c && c ≤ 'z' then some (c.toNat - 0x61)
  else if c.isDigit then some (c.toNat - 0x30 + 26)
  else none

/-- The threshold of the digit at a place. -/
def threshold (place bias : Nat) : Nat :=
  min 26 (max 1 (36 * (place + 1) - bias))

theorem one_le_threshold (place bias : Nat) : 1 ≤ threshold place bias := by
  simp only [threshold]; omega

/-- The bias for a reduced difference. -/
def biasOf (delta divisions : Nat) : Nat :=
  if 455 < delta then biasOf (delta / 35) (divisions + 36)
  else divisions + 36 * delta / (delta + 38)
termination_by delta
decreasing_by exact Nat.div_lt_self (by omega) (by omega)

/-- The bias after a difference, when the text has a given number of characters. -/
def adapt (delta : Nat) (isFirst : Bool) (count : Nat) : Nat :=
  let delta := if isFirst then delta / 700 else delta / 2
  biasOf (delta + delta / count) 0

/-! ## Writing -/

/-- The digits of a difference. -/
def digits (place bias n : Nat) : Text :=
  if n < threshold place bias then [digit n]
  else
    digit (threshold place bias +
      (n - threshold place bias) % (36 - threshold place bias)) ::
      digits (place + 1) bias ((n - threshold place bias) / (36 - threshold place bias))
termination_by n
decreasing_by
  have h₁ := one_le_threshold place bias
  exact Nat.lt_of_le_of_lt (Nat.div_le_self _ _) (by omega)

/-- What is known while differences are written. -/
structure State where
  delta : Nat := 0
  bias : Nat := firstBias
  /-- The number of characters written so far. -/
  count : Nat
  isFirst : Bool := true
  out : Text := []

/-- Pass a character of the text while the occurrences of the code point `n` are written. -/
def State.pass (n : Nat) (s : State) (c : Char) : State :=
  if c.toNat < n then { s with delta := s.delta + 1 }
  else if c.toNat = n then
    { delta := 0
      bias := adapt s.delta s.isFirst (s.count + 1)
      count := s.count + 1
      isFirst := false
      out := s.out ++ digits 0 s.bias s.delta }
  else s

/-- The differences of the code points, in ascending order; `from` is the least one that may
come. -/
def differences (t : Text) (least : Nat) (s : State) : List Nat → Text
  | [] => s.out
  | n :: ns =>
      let s := t.foldl (State.pass n) { s with delta := s.delta + (n - least) * (s.count + 1) }
      differences t (n + 1) { s with delta := s.delta + 1 } ns

/-- The written form of a text. -/
def encode (t : Text) : Text :=
  let base := t.filter fun c => c.toNat < firstExtended
  let others := (t.map Char.toNat).filter (firstExtended ≤ ·)
  let codes := others.eraseDups.mergeSort fun a b => decide (a ≤ b)
  let front := if base = [] then [] else base ++ ['-']
  front ++ differences t firstExtended { count := base.length } codes

/-! ## Reading -/

/-- The number at the beginning of the digits, and the rest. -/
def number? (bias : Nat) : (place weight sum : Nat) → Text → Option (Nat × Text)
  | _, _, _, [] => none
  | place, weight, sum, c :: cs => do
      let d ← digitValue? c
      let sum := sum + d * weight
      if d < threshold place bias then return (sum, cs)
      number? bias (place + 1) (weight * (36 - threshold place bias)) sum cs

theorem length_lt_of_number? {bias place weight sum n : Nat} {t r : Text}
    (h : number? bias place weight sum t = some (n, r)) : r.length < t.length := by
  induction t generalizing place weight sum with
  | nil => simp [number?] at h
  | cons c cs ih =>
      simp only [number?, Option.bind_eq_bind, Option.bind_eq_some_iff] at h
      obtain ⟨d, _, h⟩ := h
      split at h
      · cases h; simp
      · have := ih h
        simp only [List.length_cons]
        omega

/-- The text with the characters that the digits insert; `n` and `place` tell where the last one
went. -/
def insertAll? (t : Text) (n place bias : Nat) (isFirst : Bool) (ds : Text) : Option Text :=
  match ds with
  | [] => some t
  | d :: ds =>
      match _h : number? bias 0 1 0 (d :: ds) with
      | none => none
      | some (delta, rest) =>
          let step := place + delta
          let n := n + step / (t.length + 1)
          let place := step % (t.length + 1)
          if n.isValidChar then
            insertAll? (t.take place ++ Char.ofNat n :: t.drop place) n (place + 1)
              (adapt delta isFirst (t.length + 1)) false rest
          else none
termination_by ds.length
decreasing_by exact length_lt_of_number? _h

/-- The text of a written form, if it is one. -/
def decode? (t : Text) : Option Text :=
  if t.all fun c => c.toNat < firstExtended then
    match (Text.splitAt '-' t).reverse with
    | ds :: before :: more =>
        insertAll? (Text.joinWith ['-'] ((before :: more).reverse)) firstExtended 0 firstBias true
          ds
    | _ => insertAll? [] firstExtended 0 firstBias true t
  else none

end Punycode
end Markdown
end LiquidMarkdown
