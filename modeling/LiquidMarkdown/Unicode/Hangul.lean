import LiquidMarkdown.Text.Basic

/-!
# Korean syllables by name

A Korean syllable has a lead, a vowel and perhaps a trail, and its name spells them out.  This file
defines:

* `Hangul.leads`, `Hangul.vowels`, `Hangul.trails` — the spellings, in order;
* `Hangul.longest?` — the longest of some spellings with which a text begins;
* `Hangul.syllable?` — the code point of the syllable that a text spells.
-/

namespace LiquidMarkdown
namespace Unicode
namespace Hangul

/-- The spellings of leads; one is mute. -/
def leads : List Text :=
  ["G", "GG", "N", "D", "DD", "R", "M", "B", "BB", "S", "SS", "", "J", "JJ", "C", "K", "T", "P",
   "H"]

/-- The spellings of vowels. -/
def vowels : List Text :=
  ["A", "AE", "YA", "YAE", "EO", "E", "YEO", "YE", "O", "WA", "WAE", "OE", "YO", "U", "WEO", "WE",
   "WI", "YU", "EU", "YI", "I"]

/-- The spellings of trails, the first of which stands for none. -/
def trails : List Text :=
  ["", "G", "GG", "GS", "N", "NJ", "NH", "D", "L", "LG", "LM", "LB", "LS", "LT", "LP", "LH", "M",
   "B", "BS", "S", "SS", "NG", "J", "C", "K", "T", "P", "H"]

/-- The longest of the spellings with which a text begins: its place, and the rest of the text. -/
def longest? (spellings : List Text) (t : Text) : Option (Nat × Text) :=
  (spellings.zipIdx.filterMap fun (s, i) => (Text.dropPrefix? s t).map (i, ·)).foldl
    (fun best found =>
      match best with
      | some b => if found.2.length < b.2.length then some found else some b
      | none => some found)
    none

/-- The first syllable. -/
def base : Nat := 0xac00

/-- The code point of the syllable that a text spells. -/
def syllable? (t : Text) : Option Nat := do
  let (lead, t) ← longest? leads t
  let (vowel, t) ← longest? vowels t
  let (trail, t) ← longest? trails t
  if t ≠ [] then none
  return base + (lead * vowels.length + vowel) * trails.length + trail

end Hangul
end Unicode
end LiquidMarkdown
