import LiquidMarkdown.Unicode.Hangul
import LiquidMarkdown.Unicode.Names.Alias
import LiquidMarkdown.Unicode.Names.Ancient
import LiquidMarkdown.Unicode.Names.Brahmic
import LiquidMarkdown.Unicode.Names.EastAsian
import LiquidMarkdown.Unicode.Names.European
import LiquidMarkdown.Unicode.Names.ExtendedLetters
import LiquidMarkdown.Unicode.Names.Hieroglyphs
import LiquidMarkdown.Unicode.Names.NearEastern
import LiquidMarkdown.Unicode.Names.Notations
import LiquidMarkdown.Unicode.Names.Pictographs
import LiquidMarkdown.Unicode.Names.PresentationForms
import LiquidMarkdown.Unicode.Names.Punctuation
import LiquidMarkdown.Unicode.Names.SouthAsian
import LiquidMarkdown.Unicode.Names.Symbols
import LiquidMarkdown.Unicode.Names.WorldScripts
import LiquidMarkdown.Unicode.Ranges

/-!
# Characters by name

Names are those of Unicode 14.  Korean syllables have names that spell them; ideographs have names
that end in their code points; all other names are in tables.  This file defines:

* `nameRuns` — the names in tables;
* `NumberedNames` — names that end in code points;
* `ofName?` — the character of a name.

Letters may be of either case, but for the names of Korean syllables and of unified ideographs,
which are in upper case.
-/

namespace LiquidMarkdown
namespace Unicode

/-- The names in tables. -/
def nameRuns : List NameRun :=
  List.flatten
    [Names.european, Names.nearEastern, Names.southAsian, Names.worldScripts,
     Names.extendedLetters, Names.punctuation, Names.symbols, Names.eastAsian,
     Names.presentationForms, Names.ancient, Names.brahmic, Names.hieroglyphs, Names.notations,
     Names.pictographs]

/-! ## Names that end in code points -/

/-- Names that end in code points, in four or five hexadecimal digits. -/
structure NumberedNames where
  stem : Text
  ranges : Ranges
  /-- May there be a zero before four digits? -/
  mayPad : Bool := false

/-- The value of a hexadecimal digit in upper case. -/
def upperHexValue? (c : Char) : Option Nat :=
  if c.isDigit then some (c.toNat - 48)
  else if 'A' ≤ c && c ≤ 'F' then some (c.toNat - 55)
  else none

/-- The code point of a name, if it is among the numbered ones. -/
def NumberedNames.find? (ns : NumberedNames) (name : Text) : Option Nat := do
  let digits ← Text.dropPrefix? ns.stem name
  if digits.length < 4 || 5 < digits.length || !ns.mayPad && digits.head? == some '0' then none
  let n ← digits.foldlM (fun n c => (upperHexValue? c).map (16 * n + ·)) 0
  if ns.ranges.any fun r => r.1 ≤ n && n ≤ r.2 then some n else none

/-- The unified ideographs. -/
def unifiedIdeographs : NumberedNames where
  stem := "CJK UNIFIED IDEOGRAPH-"
  ranges :=
    [(0x3400, 0x4dbf), (0x4e00, 0x9fff), (0x20000, 0x2a6df), (0x2a700, 0x2b738),
     (0x2b740, 0x2b81d), (0x2b820, 0x2cea1), (0x2ceb0, 0x2ebe0), (0x30000, 0x3134a)]
  mayPad := true

/-- Other characters whose names end in their code points. -/
def otherNumbered : List NumberedNames :=
  [{ stem := "CJK COMPATIBILITY IDEOGRAPH-"
     ranges := [(0xf900, 0xfa6d), (0xfa70, 0xfad9), (0x2f800, 0x2fa1d)] },
   { stem := "KHITAN SMALL SCRIPT CHARACTER-", ranges := [(0x18b00, 0x18cd5)] },
   { stem := "NUSHU CHARACTER-", ranges := [(0x1b170, 0x1b2fb)] }]

/-! ## All names -/

/-- What the names of Korean syllables begin with. -/
def syllableStem : Text := "HANGUL SYLLABLE "

/-- The code point of a name in upper case that is in a table, or of a second name. -/
def listedPoint? (name : Text) : Option Nat :=
  (nameRuns.findSome? (·.find? name)).or
    (Names.aliases.findSome? fun (other, point) =>
      if other.toList = name then some point else none)

/-- The code point of a name. -/
def pointOfName? (name : Text) : Option Nat :=
  match Text.dropPrefix? syllableStem name with
  | some spelling => Hangul.syllable? spelling
  | none =>
      if Text.startsWith unifiedIdeographs.stem name then unifiedIdeographs.find? name
      else
        let name := name.map Char.toUpper
        (otherNumbered.findSome? (·.find? name)).or (listedPoint? name)

/-- The character of a name. -/
def ofName? (name : Text) : Option Char :=
  (pointOfName? name).map Char.ofNat

end Unicode
end LiquidMarkdown
