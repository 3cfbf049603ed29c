import LiquidMarkdown.Document.Shown

/-!
# Undefined values

A template may name what does not exist.  The value of such a name is undefined; most of what can
be done with it gives the same undefined value again, and what cannot be done fails with a message
that tells what was missing.  This file defines:

* `Undefined` — an undefined value: what is known about what was missing;
* `Undefined.message` — the message of a failure;
* `Undefined.Part` — what an undefined value has of its own;
* `Undefined.Operation` — what can be done with a value;
* `Undefined.apply` — what comes of it.
-/

namespace LiquidMarkdown

/-- Where something was looked for. -/
inductive Undefined.Owner where
  /-- Among all names. -/
  | names
  /-- In a given value. -/
  | value (d : Datum)

/-- An undefined value. -/
structure Undefined where
  /-- A message of its own. -/
  hint : Option Text := none
  owner : Undefined.Owner := .names
  name : Datum := .null

namespace Undefined

/-- The word for the type of a value in messages. -/
def typeName : Datum → Text
  | .null => "None"
  | .bool _ => "bool object"
  | .number _ 0 => "int object"
  | .number _ _ => "float object"
  | .text _ => "str object"
  | .list _ => "list object"
  | .object _ => "dict object"
  | .offsets _ => "OffsetMap object"

/-- The message of a failure: the hint if there is one, else what was missing and where. -/
def message (u : Undefined) : Text :=
  match u.hint.getD [], u.owner, u.name with
  | c :: cs, _, _ => c :: cs
  | [], .names, name => name.shown ++ " is undefined"
  | [], .value d, .text t => (typeName d).quoted ++ " has no attribute " ++ t.quoted
  | [], .value d, name => typeName d ++ " has no element " ++ name.shown

/-- What an undefined value has of its own. -/
inductive Part where
  | hint
  | owner
  | name
  | message
  /-- The kind of its failures. -/
  | failures
  /-- The operation that fails. -/
  | failing
  deriving DecidableEq, Repr

/-- What an undefined value has under a name. -/
def Part.ofName? (name : Text) : Option Part :=
  [(("_undefined_hint" : Text), Part.hint), ("_undefined_obj", .owner), ("_undefined_name", .name),
    ("_undefined_message", .message), ("_undefined_exception", .failures),
    ("_fail_with_undefined_error", .failing)].lookup name

/-- A part of an undefined value, as far as it is data.  What holds all names, the kind of the
failures and the operation that fails are no data and are given as nothing. -/
def part (u : Undefined) : Part → Datum
  | .hint => (u.hint.map Datum.text).getD .null
  | .owner => match u.owner with
      | .names => .null
      | .value d => d
  | .name => u.name
  | .message => .text u.message
  | .failures | .failing => .null

/-- The operators between two values. -/
inductive Arithmetic where
  | add
  | sub
  | mul
  | div
  | floorDiv
  | mod
  | pow
  deriving DecidableEq, Repr

/-- The views of a value that exist for every undefined one. -/
inductive View where
  | text
  | literal
  | markup
  | truth
  | length
  | items
  deriving DecidableEq, Repr

/-- What can be done with an undefined value.  Where another value comes in, it is given as data, or
is an undefined one. -/
inductive Operation where
  /-- An operator, with the undefined value on the left unless it is reflected. -/
  | arithmetic (op : Arithmetic) (isReflected : Bool) (other : Option Datum)
  /-- A sign, a conversion to a number, or a comparison of order. -/
  | measure
  | equals (other : Option Datum)
  | differs (other : Option Datum)
  | call (args : List (Option Datum))
  | item (key : Option Datum)
  | attribute (name : Text)
  | view (v : View)

/-- What comes of an operation that succeeds. -/
inductive Yield where
  /-- The undefined value itself. -/
  | same
  | value (d : Datum)

/-- Why an operation fails. -/
inductive Failure where
  | undefined (message : Text)
  | noAttribute (name : Text)
  deriving DecidableEq, Repr

/-- The wording of a failure. -/
def Failure.message : Failure → Text
  | undefined m => m
  | noAttribute name => name

/-- Names between two pairs of low lines are reserved. -/
def isReserved (name : Text) : Bool :=
  Text.startsWith ['_', '_'] name && Text.startsWith ['_', '_'] name.reverse

/-- How an undefined value is seen. -/
def seen : View → Datum
  | .text => .text []
  | .literal => .text "Undefined"
  | .markup => .text []
  | .truth => .bool false
  | .length => .number 0 0
  | .items => .list []

/-- What comes of an operator; a text on the left of a remainder sign is a pattern without
places. -/
def compute (u : Undefined) (op : Arithmetic) (isReflected : Bool) (other : Option Datum) :
    Except Failure Yield :=
  match op, isReflected, other with
  | .add, _, _ | .sub, _, _ | .mul, _, _ => .ok .same
  | .mod, true, some (.text t) => .ok (.value (.text t))
  | _, _, _ => .error (.undefined u.message)

/-- What comes of an operation. -/
def apply (u : Undefined) : Operation → Except Failure Yield
  | .arithmetic op isReflected other => u.compute op isReflected other
  | .measure => .error (.undefined u.message)
  | .equals other => .ok (.value (.bool other.isNone))
  | .differs other => .ok (.value (.bool other.isSome))
  | .call _ => .ok .same
  | .item _ => .ok .same
  | .attribute name => match Part.ofName? name with
      | some p => .ok (.value (u.part p))
      | none => if isReserved name then .error (.noAttribute name) else .ok .same
  | .view v => .ok (.value (seen v))

end Undefined
end LiquidMarkdown
