import LiquidMarkdown.Markdown.Character

/-!
# Percent signs in addresses

A character that may not stand in an address is written as the bytes of its UTF-8 form, each a
percent sign with two hexadecimal digits.  This file defines:

* `Percent.encode` — a text with the characters that may not stand in an address written so;
* `Percent.decode` — a text with what is written so read back, some characters excepted.
-/

namespace LiquidMarkdown
namespace Markdown
namespace Percent

/-! ## Writing -/

/-- The characters beside letters and digits that stand for themselves. -/
def plainChars : Text :=
  [';', '/', '?', ':', '@', '&', '=', '+', '$', ',', '-', '_', '.', '!', '~', '*', '\'', '(', ')',
   '#']

/-- A hexadecimal digit in upper case. -/
def digit (n : Nat) : Char :=
  if n < 10 then Char.ofNat (48 + n) else Char.ofNat (55 + n)

/-- The written form of a byte. -/
def byte (n : Nat) : Text :=
  ['%', digit (n / 16), digit (n % 16)]

/-- The written form of a character. -/
def char (c : Char) : Text :=
  if c.isAlphanum || plainChars.contains c then [c]
  else (String.utf8EncodeChar c).flatMap fun b => byte b.toNat

/-- The text with every character in its written form; what is in such a form already stays. -/
def encode : Text → Text
  | '%' :: a :: b :: t =>
      if isHexDigit a && isHexDigit b then '%' :: a :: b :: encode t
      else char '%' ++ encode (a :: b :: t)
  | c :: t => char c ++ encode t
  | [] => []
termination_by t => t.length

/-! ## Reading -/

/-- The characters whose written form stays as it is. -/
def keptChars : Text :=
  [';', '/', '?', ':', '@', '&', '=', '+', '$', ',', '#', '%']

/-- The character of a number, if it is one that takes as many bytes as it was written with. -/
def charOf? (least n : Nat) : Option Char :=
  if least ≤ n && n.isValidChar then some (Char.ofNat n) else none

/-- As many replacement characters as there are bytes, or the character. -/
def charOr (count : Nat) (c : Option Char) : Text :=
  match c with
  | some c => [c]
  | none => List.replicate count (Char.ofNat 0xfffd)

/-- Is the byte one that continues a character? -/
def continues (b : Nat) : Bool :=
  b / 0x40 == 2

/-- What the first byte of a character beyond ASCII tells: how many bytes continue it, its own part
of the number, and the least number that is written so. -/
def lead? (b : Nat) : Option (Nat × Nat × Nat) :=
  if b / 0x20 == 6 then some (1, b % 0x20, 0x80)
  else if b / 0x10 == 0xe then some (2, b % 0x10, 0x800)
  else if b / 8 == 0x1e then some (3, b % 8, 0x10000)
  else none

/-- The text of a sequence of bytes; a byte that belongs to no character is replaced. -/
def ofBytes : List Nat → Text
  | [] => []
  | b :: bs =>
      if b < 0x80 then
        (if keptChars.contains (Char.ofNat b) then byte b else [Char.ofNat b]) ++ ofBytes bs
      else
        let more := (lead? b).filter fun (k, _) =>
          (bs.take k).length == k && (bs.take k).all continues
        match more with
        | some (k, n, least) =>
            charOr (k + 1) (charOf? least ((bs.take k).foldl (fun n b => n * 0x40 + b % 0x40) n)) ++
              ofBytes (bs.drop k)
        | none => charOr 1 none ++ ofBytes bs
termination_by bs => bs.length
decreasing_by all_goals simp only [List.length_cons, List.length_drop]; omega

/-- The text with the written forms read back; `bytes` holds, in reverse, those that came last. -/
def decodeFrom (bytes : List Nat) : Text → Text
  | '%' :: a :: b :: t =>
      match hexValue? a, hexValue? b with
      | some x, some y => decodeFrom ((16 * x + y) :: bytes) t
      | _, _ => ofBytes bytes.reverse ++ '%' :: decodeFrom [] (a :: b :: t)
  | c :: t => ofBytes bytes.reverse ++ c :: decodeFrom [] t
  | [] => ofBytes bytes.reverse
termination_by t => t.length

/-- The text with the written forms read back. -/
def decode (t : Text) : Text :=
  decodeFrom [] t

end Percent
end Markdown
end LiquidMarkdown
