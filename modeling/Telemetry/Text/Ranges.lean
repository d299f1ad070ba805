/-!
# Ranges of code points

A class of characters is given by the ranges of its code points, both ends included.

Main statement: `inRanges_iff`, a code point is in the class when one of the ranges holds it.
-/

namespace Telemetry.Text

/-- Whether a code point lies in one of the ranges. -/
def inRanges (ranges : List (Nat × Nat)) (n : Nat) : Bool :=
  ranges.any fun range => range.1 ≤ n && n ≤ range.2

theorem inRanges_iff {ranges : List (Nat × Nat)} {n : Nat} :
    inRanges ranges n = true ↔ ∃ range ∈ ranges, range.1 ≤ n ∧ n ≤ range.2 := by
  simp [inRanges]

end Telemetry.Text
