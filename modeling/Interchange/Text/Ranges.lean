/-!
# Ranges of code points

Membership in a Unicode property that is given as ranges of code points.
-/

namespace Interchange.Text

/-- Whether a code point lies in one of the ranges. -/
def inRanges (ranges : List (List (Nat × Nat))) (n : Nat) : Bool :=
  ranges.any fun part => part.any fun r => r.1 ≤ n && n ≤ r.2

end Interchange.Text
