import LiquidMarkdown.Markdown.Url.Basic
import LiquidMarkdown.Markdown.Url.Percent
import LiquidMarkdown.Markdown.Url.Punycode

/-!
# Addresses of links

* `Url.normalize` — an address as it stands in a link: the host in ASCII, everything that may not
  stand there written with percent signs;
* `Url.display` — the same address as it is shown;
* `Url.isAllowed` — may a link lead there?
-/

namespace LiquidMarkdown
namespace Markdown
namespace Url

/-! ## Hosts in ASCII -/

/-- The schemes whose hosts are known to be names of hosts. -/
def hostSchemes : List Text :=
  [[], "http:", "https:", "mailto:"]

/-- Does the character separate the parts of a name? -/
def isLabelStop (c : Char) : Bool :=
  c.toNat == 0x2e || c.toNat == 0x3002 || c.toNat == 0xff0e || c.toNat == 0xff61

/-- The parts of a name. -/
def labelsOf (t : Text) : List Text :=
  Text.splitAt '.' (t.map fun c => if isLabelStop c then '.' else c)

/-- What marks a part of a name that is written in ASCII. -/
def asciiMark : Text := "xn--"

/-- A part of a name in ASCII. -/
def labelToAscii (t : Text) : Text :=
  if t.any fun c => 0x7e < c.toNat then asciiMark ++ Punycode.encode t else t

/-- A part of a name as it is shown, unless it is marked and cannot be read. -/
def labelToUnicode? (t : Text) : Option Text :=
  match Text.dropPrefix? asciiMark t with
  | some rest => Punycode.decode? (rest.map Char.toLower)
  | none => some t

/-- The address with its host in ASCII. -/
def toAscii (u : Url) : Url :=
  if hostSchemes.contains u.scheme then
    { u with host := Text.joinWith ['.'] ((labelsOf u.host).map labelToAscii) }
  else u

/-- The address with its host as it is shown; a host of which a part cannot be read stays. -/
def toUnicode (u : Url) : Url :=
  if hostSchemes.contains u.scheme then
    match (labelsOf u.host).mapM labelToUnicode? with
    | some parts => { u with host := Text.joinWith ['.'] parts }
    | none => u
  else u

/-! ## Links -/

/-- An address as it stands in a link. -/
def normalize (t : Text) : Text :=
  (parse t).toAscii.format Percent.encode

/-- An address as it is shown. -/
def display (t : Text) : Text :=
  (parse t).toUnicode.format Percent.decode

/-- The schemes that no link may have. -/
def refusedSchemes : List Text :=
  ["vbscript:", "javascript:", "file:", "data:"]

/-- The data that a link may hold: pictures. -/
def allowedData : List Text :=
  ["data:image/gif;", "data:image/png;", "data:image/jpeg;", "data:image/webp;"]

/-- May a link lead to the normalized address? -/
def isAllowed (t : Text) : Bool :=
  let t := (Text.trim t).map Char.toLower
  !refusedSchemes.any (Text.startsWith · t) || allowedData.any (Text.startsWith · t)

end Url
end Markdown
end LiquidMarkdown
