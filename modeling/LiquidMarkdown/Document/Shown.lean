import LiquidMarkdown.Document.Error
import LiquidMarkdown.Text.Quoted

/-!
# Values and nodes in messages

* `Datum.shown` — a value as it is shown in messages;
* `Node.shown?` — a node in one line: its kind, its type, and the beginning of its text or the
  number of its children.
-/

namespace LiquidMarkdown

namespace Datum

/-- Digits with a point before the last `places` of them. -/
def withPoint (places : Nat) (digits : Text) : Text :=
  let digits := List.replicate (places + 1 - digits.length) '0' ++ digits
  digits.take (digits.length - places) ++ '.' :: digits.drop (digits.length - places)

/-- Digits of which the first stands before the point, and the negative power of ten that they are
multiplied with, in two digits at least. -/
def withPower (power : Nat) (digits : Text) : Text :=
  let shownPower := Text.ofNat power
  (match digits with
    | first :: second :: rest => first :: '.' :: second :: rest
    | digits => digits) ++ ['e', '-'] ++
    List.replicate (2 - shownPower.length) '0' ++ shownPower

/-- The number `mantissa · 10 ^ (-exponent)`: numbers below a ten-thousandth are shown with a power
of ten, all others in positional notation. -/
def shownNumber (mantissa : Int) (exponent : Nat) : Text :=
  if exponent = 0 then Text.ofInt mantissa
  else
    let digits := Text.ofNat mantissa.natAbs
    (if mantissa < 0 then ['-'] else []) ++
      if mantissa ≠ 0 && digits.length + 4 ≤ exponent then
        withPower (exponent + 1 - digits.length) digits
      else withPoint exponent digits

mutual

/-- A value in messages. -/
def shown : Datum → Text
  | null => "None"
  | bool true => "True"
  | bool false => "False"
  | number m e => shownNumber m e
  | text t => t.quoted
  | list items => ['['] ++ Text.joinWith ", " (shownAll items) ++ [']']
  | object fields => ['{'] ++ Text.joinWith ", " (shownFields fields) ++ ['}']
  | offsets _ => "OffsetMap"

def shownAll : List Datum → List Text
  | [] => []
  | d :: ds => shown d :: shownAll ds

def shownFields : List (Text × Datum) → List Text
  | [] => []
  | (key, d) :: fields => (key.quoted ++ [':', ' '] ++ shown d) :: shownFields fields

end

end Datum

namespace Label

/-- The beginning of a text: all of it up to 30 characters, else 27 and dots. -/
def beginning (t : Text) : Text :=
  if t.length ≤ 30 then t else t.take 27 ++ "..."

end Label

/-- A node in one line, unless it has neither a text nor a list of children. -/
def Node.shown? (n : Node) : Except DocumentError Text :=
  let l := n.label
  let line (what : Text) : Text :=
    l.kind.nodeName ++ ['('] ++ l.type.quoted ++ [',', ' '] ++ what ++ [')']
  match l.value, n with
  | some t, _ => .ok (line (Label.beginning t).quoted)
  | none, .branch _ cs => .ok (line (("children=" : Text) ++ Text.ofNat cs.length))
  | none, .stub _ => .error .noChildren

end LiquidMarkdown
