import LiquidMarkdown.Text.Basic

/-!
# Runs of names

Characters that follow each other often have names that begin alike.  This file defines:

* `NameRun` — the names of some characters in turn;
* `NameRun.find?` — the code point of a name, with the law that the run has the name.
-/

namespace LiquidMarkdown
namespace Unicode

/-- The names of characters that follow each other. -/
structure NameRun where
  /-- The first code point. -/
  first : Nat
  /-- What all names begin with. -/
  stem : String
  /-- How the names go on, between semicolons. -/
  endings : String

/-- The code point of a name, if the run has it. -/
def NameRun.find? (r : NameRun) (name : Text) : Option Nat := do
  let ending ← Text.dropPrefix? r.stem.toList name
  let place ← (Text.splitAt ';' r.endings.toList).findIdx? (· = ending)
  return r.first + place

/-- A name that is found is the stem with one of the endings, and its code point is counted from
the first one. -/
theorem NameRun.eq_of_find? {r : NameRun} {name : Text} {n : Nat} (h : r.find? name = some n) :
    ∃ i ending, (Text.splitAt ';' r.endings.toList)[i]? = some ending ∧
      name = r.stem.toList ++ ending ∧ n = r.first + i := by
  simp only [find?, Option.bind_eq_bind, Option.bind_eq_some_iff, Option.pure_def,
    Option.some.injEq] at h
  obtain ⟨ending, hname, i, hi, rfl⟩ := h
  obtain ⟨hlt, heq, -⟩ := List.findIdx?_eq_some_iff_getElem.1 hi
  refine ⟨i, ending, ?_, Text.dropPrefix?_eq_some.1 hname, rfl⟩
  rw [List.getElem?_eq_getElem hlt]
  simpa using heq

end Unicode
end LiquidMarkdown
