import LiquidMarkdown.Markdown.Html
import LiquidMarkdown.Markdown.Link

/-!
# Lexemes of running text

Running text is read from left to right; what begins at a character is decided by that character
and what follows.  This file defines:

* `RunningText` — a text with the link definitions of its document;
* `Lexeme` — what may begin at a character;
* `Memory` — what has been found out about later characters;
* `RunningText.lexeme?` — the lexeme that begins at a character and the place behind it, where the
  way to skip the lexemes inside brackets is given;
* `RunningText.skip` — the place behind the lexeme that begins at a character.

Where brackets are nested too deep, everything up to the end of the text is skipped.
-/

namespace LiquidMarkdown
namespace Markdown

open Link (Target Definitions)

/-- A text with the link definitions of its document. -/
structure RunningText where
  text : Text
  definitions : Definitions

/-- What may begin at a character. -/
inductive Lexeme where
  /-- Characters without a meaning. -/
  | plain (t : Text)
  | lineBreak
  | hardBreak
  /-- An escape or a character reference: what it stands for, how it is written, and which of the
  two it is. -/
  | special (characters source kind : Text)
  | code (marker content : Text)
  /-- A link whose text stands between two places. -/
  | link (start stop : Nat) (target : Target)
  | image (start stop : Nat) (target : Target)
  /-- An address that is its own text. -/
  | address (address shown : Text)
  | html (source : Text)

/-- What has been found out about later characters: the places behind the lexemes that begin at
some of them. -/
abbrev Memory := List (Nat × Nat)

/-- A way to skip the lexeme that begins at a place before a given end. -/
abbrev Skip := (place stop : Nat) → Memory → Nat × Memory

namespace RunningText

/-! ## Places -/

/-- The text from a place on. -/
def behind (r : RunningText) (place : Nat) : Text :=
  r.text.drop place

/-- The text from a place up to another one. -/
def between (r : RunningText) (start stop : Nat) : Text :=
  (r.text.drop start).take (stop - start)

/-- Has the character a meaning of its own? -/
def isActive (c : Char) : Bool :=
  ("\n!#$%&*+-:<=>@[\\]^_`\x7b\x7d~".toList).contains c

/-! ## Code -/

/-- How many characters stand before the next run of exactly as many backticks as asked for. -/
def distanceToTicks? (length : Nat) (t : Text) : Option Nat :=
  match h : t.dropWhile (· != '`') with
  | [] => none
  | _ :: u =>
      let before := t.length - (u.length + 1)
      let more := (u.takeWhile (· = '`')).length
      if more + 1 = length then some before
      else (distanceToTicks? length (u.drop more)).map (before + 1 + more + ·)
termination_by t.length
decreasing_by
  have := (List.dropWhile_sublist (· != '`') (l := t)).length_le
  simp only [h, List.length_cons, List.length_drop] at this ⊢
  omega

/-- Code without the space at each end, unless there are spaces only; line feeds are spaces. -/
def trimCode (t : Text) : Text :=
  let t := t.map fun c => if c = '\n' then ' ' else c
  if t.head? == some ' ' && t.getLast? == some ' ' && !t.all (· = ' ') then
    (t.drop 1).dropLast
  else t

/-- The code with which a text begins, or the backticks as they are, and the length. -/
def code (t : Text) : Lexeme × Nat :=
  let marker := t.takeWhile (· = '`')
  let inner := t.drop marker.length
  match distanceToTicks? marker.length inner with
  | some n => (.code marker (trimCode (inner.take n)), n + 2 * marker.length)
  | none => (.plain marker, marker.length)

/-! ## Links -/

/-- The place of the bracket that closes the one before a place, at a depth of brackets.  Where
links may not be nested, there is none if a link comes first. -/
def closingBracket? (r : RunningText) (skip : Skip) (mayHoldLinks : Bool) (depth place stop : Nat)
    (m : Memory) : Option Nat × Memory :=
  if place < stop then
    let c := (r.behind place).headD ' '
    if c = ']' && depth = 1 then (some place, m)
    else
      let depth := if c = ']' then depth - 1 else depth
      let (next, m) := skip place stop m
      let isLone := next = place + 1
      if c = '[' && !isLone && !mayHoldLinks then (none, m)
      else
        r.closingBracket? skip mayHoldLinks (if c = '[' && isLone then depth + 1 else depth)
          (max next (place + 1)) stop m
  else (none, m)
termination_by stop - place
decreasing_by omega

/-- What comes of a target in parentheses. -/
inductive InlineTarget where
  /-- There is nothing in the parentheses, and they are not closed. -/
  | missing
  /-- The target is followed by something else than the closing parenthesis. -/
  | broken (rest : Text)
  | found (target : Target) (rest : Text)

/-- The target in parentheses that a text follows the opening one of. -/
def inlineTarget (t : Text) : InlineTarget :=
  match t.dropWhile isSpaceOrBreak with
  | [] => .missing
  | c :: u =>
      let t := c :: u
      let (address, rest) : Text × Text := match Link.destination? t with
        | some (destination, rest) => match Link.address? destination with
            | some address => (address, rest)
            | none => ([], t)
        | none => ([], t)
      let inner := rest.dropWhile isSpaceOrBreak
      let title? := if inner.length < rest.length then Link.title? inner else none
      let (title, rest) : Text × Text := match title? with
        | some (title, rest) => (title, rest.dropWhile isSpaceOrBreak)
        | none => ([], inner)
      match rest with
      | ')' :: rest => .found ⟨address, title⟩ rest
      | rest => .broken rest

/-- The target under a label.  The label stands in brackets at `place`, or else it is the text of
the link itself, which stands from `start` up to `stop`. -/
def definedTarget? (r : RunningText) (skip : Skip) (start stop place limit : Nat) (m : Memory) :
    Option (Target × Nat) × Memory :=
  if r.definitions.isEmpty then (none, m)
  else
    let (close, m) :=
      if (r.between place limit).head? = some '[' then
        r.closingBracket? skip true 1 (place + 1) limit m
      else (none, m)
    let (label, next) := match close with
      | some close => (r.between (place + 1) close, close + 1)
      | none => ([], stop + 1)
    let label := if label = [] then r.between start stop else label
    ((r.definitions.find? label).map fun target => (target, next), m)

/-- The target behind the text of a link or of a picture, and the place behind it. -/
def target? (r : RunningText) (skip : Skip) (isImage : Bool) (start stop limit : Nat) (m : Memory) :
    Option (Target × Nat) × Memory :=
  match r.between (stop + 1) limit with
  | '(' :: t => match inlineTarget t with
      | .missing => (none, m)
      | .found target rest => (some (target, limit - rest.length), m)
      | .broken rest =>
          if isImage then (none, m)
          else r.definedTarget? skip start stop (limit - rest.length + 1) limit m
  | _ => r.definedTarget? skip start stop (stop + 1) limit m

/-- The link or the picture whose text starts at a place. -/
def linkOrImage? (r : RunningText) (skip : Skip) (isImage : Bool) (start limit : Nat) (m : Memory) :
    Option (Lexeme × Nat) × Memory :=
  match r.closingBracket? skip isImage 1 start limit m with
  | (none, m) => (none, m)
  | (some stop, m) =>
      let (found, m) := r.target? skip isImage start stop limit m
      (found.map fun (target, next) =>
        (if isImage then .image start stop target else .link start stop target, next), m)

/-! ## Addresses -/

/-- A line feed at the end does not count. -/
def dropFinalBreak (t : Text) : Text :=
  if t.getLast? = some '\n' then t.dropLast else t

/-- Is the text an address with a scheme? -/
def isAbsolute (t : Text) : Bool :=
  match t with
  | c :: _ =>
      let scheme := t.takeWhile (· != ':')
      c.isAlpha && 2 ≤ scheme.length && scheme.length ≤ 32 && scheme.length < t.length &&
        scheme.all (fun d => d.isAlphanum || d = '+' || d = '.' || d = '-') &&
        (dropFinalBreak (t.drop (scheme.length + 1))).all fun d =>
          0x20 < d.toNat && d ≠ '<' && d ≠ '>'
  | [] => false

/-- May the character stand before the at sign of a mail address? -/
def isMailChar (c : Char) : Bool :=
  c.isAlphanum || (".!#$%&'*+/=?^_`\x7b|\x7d~-".toList).contains c

/-- Is the text a part of the name of a mail host? -/
def isMailHostPart (t : Text) : Bool :=
  t ≠ [] && t.length ≤ 63 && t.all (fun c => c.isAlphanum || c = '-') &&
    t.head? != some '-' && t.getLast? != some '-'

/-- Is the text a mail address? -/
def isMail (t : Text) : Bool :=
  match Text.splitAt '@' (dropFinalBreak t) with
  | [user, host] =>
      user ≠ [] && user.all isMailChar && (Text.splitAt '.' host).all isMailHostPart
  | _ => false

/-- The address in angle brackets, without them. -/
def bracketed? : Text → Option Text
  | '<' :: t =>
      let u := t.takeWhile fun c => c != '<' && c != '>'
      if (t.drop u.length).head? = some '>' then some u else none
  | _ => none

/-- The address in angle brackets that a text begins with. -/
def address? (t : Text) : Option (Lexeme × Nat) := do
  let u ← bracketed? t
  let full : Text := if isAbsolute u then u else "mailto:" ++ u
  if !(isAbsolute u || isMail u) then none
  let address ← Link.address? full
  return (.address address (Url.display u), u.length + 2)

/-! ## Lexemes -/

/-- The escape that a text begins with, and its length. -/
def escape? : Text → Option (Lexeme × Nat)
  | '\\' :: '\n' :: t => some (.hardBreak, 2 + (t.takeWhile isSpace).length)
  | '\\' :: c :: _ =>
      let source := ['\\', c]
      some (.special (if Unicode.isAsciiPunctuation c then [c] else source) source "escape", 2)
  | _ => none

/-- The HTML that begins at a place, and its length. -/
def html? (r : RunningText) (place stop : Nat) : Option (Lexeme × Nat) :=
  if place + 2 < stop then
    (Html.inline? (r.behind place)).map fun n => (.html (r.between place (place + n)), n)
  else none

/-- The character reference that begins at a place, and its length. -/
def reference? (r : RunningText) (place stop : Nat) : Option (Lexeme × Nat) :=
  if place + 1 < stop then
    (CharacterReference.read? (r.behind place)).map fun c =>
      (.special c.characters c.source "entity", c.source.length)
  else none

/-- The lexeme that begins at a place, and the place behind it. -/
def lexeme? (r : RunningText) (skip : Skip) (place stop : Nat) (m : Memory) :
    Option (Lexeme × Nat) × Memory :=
  let here := r.between place stop
  let from? (found : Option (Lexeme × Nat)) : Option (Lexeme × Nat) × Memory :=
    (found.map fun (l, n) => (l, place + n), m)
  match here with
  | [] => (none, m)
  | '\n' :: t => (some (.lineBreak, place + 1 + (t.takeWhile isSpace).length), m)
  | '\\' :: _ => from? (escape? here)
  | '`' :: _ => from? (some (code (r.behind place)))
  | '[' :: _ => r.linkOrImage? skip false (place + 1) stop m
  | '!' :: '[' :: _ => r.linkOrImage? skip true (place + 2) stop m
  | '<' :: _ => from? ((address? here).or (r.html? place stop))
  | '&' :: _ => from? (r.reference? place stop)
  | c :: _ =>
      let t := here.takeWhile fun d => !isActive d
      if isActive c then (none, m) else (some (.plain t, place + t.length), m)

/-- The place behind the lexeme that begins at a place, where brackets may be nested up to a
depth. -/
def skip (r : RunningText) : (depth : Nat) → Skip
  | 0, place, stop, m => match m.lookup place with
      | some next => (next, m)
      | none => (stop + 1, (place, stop + 1) :: m)
  | depth + 1, place, stop, m => match m.lookup place with
      | some next => (next, m)
      | none =>
          let (found, m) := r.lexeme? (r.skip depth) place stop m
          let next := (found.map (·.2)).getD (place + 1)
          (next, (place, next) :: m)

end RunningText
end Markdown
end LiquidMarkdown
