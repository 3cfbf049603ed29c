import LiquidMarkdown.Source.OffsetMap
import LiquidMarkdown.Text.Basic

/-!
# Node data

What a node carries beside its text: values under names, in the order in which they were given.
This file defines:

* `Datum` — a value: the values of common data formats, and offset maps;
* `Datum.isTrue` — is a value taken for true: everything but nothing, zero and the empty ones;
* `Data` — named values, `Data.get?`, `Data.put`, `Data.flag`;
* `verbatimKey`, `offsetsKey` — the names with a meaning of their own.
-/

namespace LiquidMarkdown

/-- A value that a node carries. -/
inductive Datum where
  | null
  | bool (b : Bool)
  /-- The number `mantissa · 10 ^ (-exponent)`. -/
  | number (mantissa : Int) (exponent : Nat)
  | text (t : Text)
  | list (items : List Datum)
  | object (fields : List (Text × Datum))
  | offsets (m : OffsetMap)

instance : Inhabited Datum := ⟨.null⟩

namespace Datum

/-- Is the value taken for true? -/
def isTrue : Datum → Bool
  | null => false
  | bool b => b
  | number m _ => m != 0
  | text t => !t.isEmpty
  | list items => !items.isEmpty
  | object fields => !fields.isEmpty
  | offsets _ => true

end Datum

/-- Values under names. -/
abbrev Data := List (Text × Datum)

namespace Data

/-- The value under a name. -/
def get? (d : Data) (key : Text) : Option Datum :=
  List.lookup key d

/-- The data with a value under a name: in the place of the old one, or at the end. -/
def put (d : Data) (key : Text) (value : Datum) : Data :=
  if (d.get? key).isSome then d.map fun f => if f.1 = key then (key, value) else f
  else d ++ [(key, value)]

/-- Is the value under a name taken for true? -/
def flag (d : Data) (key : Text) : Bool :=
  match d.get? key with
  | some v => v.isTrue
  | none => false

/-- The name under which a text is marked as literal. -/
def verbatimKey : Text := "verbatim"

/-- The name under which a text that is not contiguous in the source carries its offset map. -/
def offsetsKey : Text := "offsets"

/-- The offset map that a text carries. -/
def offsets? (d : Data) : Option OffsetMap :=
  match d.get? offsetsKey with
  | some (.offsets m) => some m
  | _ => none

end Data
end LiquidMarkdown
