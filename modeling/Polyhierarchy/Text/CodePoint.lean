/-!
# Ranges of code points

A set of characters is written down as an ascending list of ranges of code points.

## Main definitions

* `Text.inRanges` — whether a code point lies in one of the ranges.
-/

namespace Polyhierarchy.Text

/-- Whether a code point lies in one of the ranges, which ascend. -/
def inRanges (n : Nat) : List (Nat × Nat) → Bool
  | [] => false
  | (lo, hi) :: rest => if n ≤ hi then decide (lo ≤ n) else inRanges n rest

end Polyhierarchy.Text
