/-!
# Ranges of code points

A character property is given as a list of closed ranges of code points.
-/

namespace LiquidMarkdown
namespace Unicode

/-- Closed ranges of code points, in ascending order. -/
abbrev Ranges := List (Nat × Nat)

namespace Ranges

/-- Does the character lie in one of the ranges? -/
def contains (rs : Ranges) (c : Char) : Bool :=
  rs.any fun r => r.1 ≤ c.toNat && c.toNat ≤ r.2

end Ranges

end Unicode
end LiquidMarkdown
