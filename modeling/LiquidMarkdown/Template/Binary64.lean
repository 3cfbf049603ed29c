/-!
# Binary floating-point numbers

A decimal fraction is read as the nearest binary floating-point number with 53 significant bits; a
value in the middle between two goes to the one with an even significand.  The number is kept as
its 64-bit pattern, computed in exact integer arithmetic.  This file defines:

* `Binary64.roundDiv` — a quotient rounded to the nearest integer, ties to even;
* `Binary64.ofRatio` — the pattern of a positive ratio;
* `Binary64.ofDecimal` — the pattern of `m · 10 ^ e`.
-/

namespace LiquidMarkdown
namespace Binary64

/-- The bit pattern of positive infinity. -/
def infinity : Nat := 2047 * Nat.pow 2 52

/-- The quotient rounded to the nearest integer; a tie goes to the even one. -/
def roundDiv (num den : Nat) : Nat :=
  let q := num / den
  let r := num % den
  if den < 2 * r || 2 * r == den && q % 2 == 1 then q + 1 else q

/-- The least exponent of the last bit: that of the subnormal numbers. -/
def minExponent : Int := -1074

/-- The exponent of the last of 53 significant bits of a ratio, not below that of the subnormal
numbers. -/
def exponentOf (num den : Nat) : Int :=
  let k : Int := (Nat.log2 num : Int) - Nat.log2 den - 52
  -- the estimate is exact or one too high
  let fits : Bool :=
    if 0 ≤ k then den * Nat.pow 2 k.toNat * Nat.pow 2 52 ≤ num
    else den * Nat.pow 2 52 ≤ num * Nat.pow 2 (-k).toNat
  max minExponent (if fits then k else k - 1)

/-- The significand for a given exponent of the last bit. -/
def significand (num den : Nat) (k : Int) : Nat :=
  if 0 ≤ k then roundDiv num (den * Nat.pow 2 k.toNat)
  else roundDiv (num * Nat.pow 2 (-k).toNat) den

/-- The bit pattern of a significand and the exponent of its last bit. -/
def pack (q : Nat) (k : Int) : Nat :=
  let carried := q == Nat.pow 2 53
  let q := if carried then Nat.pow 2 52 else q
  let k := if carried then k + 1 else k
  if q < Nat.pow 2 52 then q
  else if 972 ≤ k then infinity
  else (k + 1075).toNat * Nat.pow 2 52 + (q - Nat.pow 2 52)

/-- The bit pattern of the number nearest to a positive ratio. -/
def ofRatio (num den : Nat) : Nat :=
  let k := exponentOf num den
  pack (significand num den k) k

/-- The bit pattern of the number nearest to `m · 10 ^ e`.  Exponents far outside the range of the
format are settled by the number of digits alone. -/
def ofDecimal (m : Nat) (e : Int) : Nat :=
  let magnitude : Int := (Nat.toDigits 10 m).length + e
  if m == 0 || magnitude < -330 then 0
  else if 320 < magnitude then infinity
  else if 0 ≤ e then ofRatio (m * Nat.pow 10 e.toNat) 1
  else ofRatio m (Nat.pow 10 (-e).toNat)

end Binary64
end LiquidMarkdown
