/-
# `Text.Ranges` — classes of characters as ranges of code points

A class of characters beyond ASCII is a table: inclusive ranges of code
points in ascending order.
-/

namespace BundleConfig.Text

/-- Whether a code point lies in one of the ranges. -/
def inRanges (ranges : List (Nat × Nat)) (n : Nat) : Bool :=
  ranges.any fun r => decide (r.1 ≤ n) && decide (n ≤ r.2)

end BundleConfig.Text
