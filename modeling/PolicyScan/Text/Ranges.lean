/-!
# Ranges of code points

A property of characters that has no shorter rule is a table of the ranges
that have it, both ends included, in ascending order.
-/

namespace PolicyScan.Text

/-- Whether a character lies in one of the ranges. -/
def inRanges (ranges : List (Nat × Nat)) (c : Char) : Bool :=
  ranges.any fun (low, high) => low ≤ c.toNat && c.toNat ≤ high

end PolicyScan.Text
