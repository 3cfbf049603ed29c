import LiquidMarkdown.Text.Blank

/-!
# Addresses

The parts of an address as they stand in a link.  This file defines:

* `Url` — scheme, user, host, port number, path, query and fragment, each empty if it is missing;
* `Url.parse` — the parts of a text; every text has some;
* `Url.format` — the text of the parts, each in a form of its own.

Two slashes always open a host.  A host ends at the first character that none can have; a part of
it that is too long or holds something else is cut, and what is cut off belongs to the path.
-/

namespace LiquidMarkdown
namespace Markdown

/-- An address. -/
structure Url where
  /-- The scheme with its colon. -/
  scheme : Text := []
  slashes : Bool := false
  user : Text := []
  host : Text := []
  portNumber : Text := []
  path : Text := []
  /-- The query with its question mark. -/
  query : Text := []
  /-- The fragment with its number sign. -/
  fragment : Text := []
  deriving DecidableEq, Repr

namespace Url

/-! ## Characters -/

/-- May the character stand in a scheme?  Letters count without regard to case. -/
def isSchemeChar (c : Char) : Bool :=
  c.isAlphanum || c = '.' || c = '+' || c = '-' || c.toNat == 0x130 || c.toNat == 0x131 ||
    c.toNat == 0x17f || c.toNat == 0x212a

/-- Does the character end the part of an address that may hold user and host? -/
def endsAuthority (c : Char) : Bool :=
  c = '/' || c = '?' || c = '#'

/-- The characters that no host has. -/
def hostStops : Text :=
  ['%', '/', '?', ';', '#', '\'', '{', '}', '|', '\\', '^', '`', '<', '>', '"', ' ', '\r', '\n',
   '\t']

/-- An ASCII character that may stand in a host. -/
def isHostChar (c : Char) : Bool :=
  c.isAlphanum || c = '+' || c = '_' || c = '-'

/-! ## Hosts -/

/-- The greatest length of a part of a host. -/
def partLimit : Nat := 63

/-- The greatest length of a host. -/
def hostLimit : Nat := 255

/-- May the text be a part of a host? -/
def isHostPart (p : Text) : Bool :=
  p.length ≤ partLimit && p.all fun c => isHostChar c || 0x7f < c.toNat

/-- The parts of a host up to the first that is unfit, which is cut, and what is left over. -/
def fitParts : List Text → List Text × List Text
  | [] => ([], [])
  | p :: ps =>
      if isHostPart p then
        let (good, rest) := fitParts ps
        (p :: good, rest)
      else
        let good := (p.take partLimit).takeWhile isHostChar
        ([good], p.drop good.length :: ps)

/-- Is the host written in brackets? -/
def isBracketed (host : Text) : Bool :=
  Text.startsWith ['['] host && host.getLast? == some ']'

/-- A host and its port number. -/
def splitPort (t : Text) : Text × Text :=
  let digits := Text.takeEnd Char.isDigit t
  match (Text.dropEnd Char.isDigit t).reverse with
  | ':' :: before => (before.reverse, digits)
  | _ => (t, [])

/-- The host that a text begins with, and the rest. -/
def splitHost (t : Text) : Text × Text :=
  let host := t.takeWhile fun c => !hostStops.contains c
  let host := if host.getLast? = some ':' then host.dropLast else host
  (host, t.drop host.length)

/-- The user before the last at sign of the authority, and the rest. -/
def splitUser (t : Text) : Text × Text :=
  let authority := t.takeWhile fun c => !endsAuthority c
  match (Text.splitAt '@' authority).reverse with
  | host :: before :: users =>
      (Text.joinWith ['@'] (users.reverse ++ [before]), host ++ t.drop authority.length)
  | _ => ([], t)

/-- The address with the user, host and port number of a text, and the rest behind them. -/
def withAuthority (u : Url) (t : Text) : Url × Text :=
  let (user, t) := splitUser t
  let (host, rest) := splitHost t
  let (host, number) := splitPort host
  let bracketed := isBracketed host
  let (host, rest) :=
    if bracketed then (host, rest)
    else match fitParts (Text.splitAt '.' host) with
      | (good, []) => (Text.joinWith ['.'] good, rest)
      | (good, left) => (Text.joinWith ['.'] good, Text.joinWith ['.'] left ++ rest)
  let host := if hostLimit < host.length then [] else host
  let host := if bracketed then (host.drop 1).dropLast else host
  ({ u with user := user, host := host, portNumber := number }, rest)

/-! ## Addresses as text -/

/-- The scheme of a text, and the rest. -/
def splitScheme (t : Text) : Text × Text :=
  let name := t.takeWhile isSchemeChar
  match t.drop name.length with
  | ':' :: rest => if name = [] then ([], t) else (name ++ [':'], rest)
  | _ => ([], t)

/-- The schemes that are followed by no host unless there are slashes. -/
def slashedSchemes : List Text :=
  ["http:", "https:", "ftp:", "gopher:", "file:"]

/-- The scheme that has no host at all. -/
def hostlessScheme : Text := "javascript:"

/-- The address with the path, the query and the fragment of a text. -/
def withPath (u : Url) (t : Text) : Url :=
  let front := t.takeWhile (· != '#')
  let path := front.takeWhile (· != '?')
  { u with
    path := path
    query := front.drop path.length
    fragment := t.drop front.length }

/-- The parts of a text. -/
def parse (t : Text) : Url :=
  let (scheme, rest) := splitScheme (Text.trim t)
  let hostless := scheme = hostlessScheme
  let slashes := Text.startsWith "//" rest && !hostless
  let u : Url := { scheme := scheme, slashes := slashes }
  let rest := if slashes then rest.drop 2 else rest
  if !hostless && (slashes || scheme ≠ [] && !slashedSchemes.contains scheme) then
    let (u, rest) := u.withAuthority rest
    u.withPath rest
  else u.withPath rest

/-- The text of an address, where the form is given in which its parts are written.  The brackets
around a host with colons stand as they are. -/
def format (form : Text → Text) (u : Url) : Text :=
  form (u.scheme ++ (if u.slashes then ['/', '/'] else []) ++
    (if u.user = [] then [] else u.user ++ ['@'])) ++
  (if u.host.contains ':' then ['['] ++ form u.host ++ [']'] else form u.host) ++
  form ((if u.portNumber = [] then [] else ':' :: u.portNumber) ++ u.path ++ u.query ++ u.fragment)

end Url
end Markdown
end LiquidMarkdown
