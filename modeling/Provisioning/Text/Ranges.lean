/-!
# Ranges of characters

A class of characters given as a table: pairs of the first and the last number
of each run.
-/

namespace Provisioning.Text

/-- Whether a number lies in one of the ranges. -/
def inRanges (ranges : List (Nat × Nat)) (n : Nat) : Bool :=
  ranges.any fun range => range.1 ≤ n && n ≤ range.2

/-- The number of characters that the ranges hold. -/
def countRanges (ranges : List (Nat × Nat)) : Nat :=
  ranges.foldl (fun count range => count + (range.2 + 1 - range.1)) 0

end Provisioning.Text
