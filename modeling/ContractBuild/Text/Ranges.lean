/-!
# Range tables

A class of code points is given by its ranges in ascending order. `RangeTable.contains` stops at the first range that
starts behind the number it looks for.
-/

namespace ContractBuild.Text

/-- Ranges of code points, first and last of each, in ascending order. -/
abbrev RangeTable := List (Nat × Nat)

/-- Whether `n` lies in one of the ranges. -/
def RangeTable.contains : RangeTable → Nat → Bool
  | [], _ => false
  | (first, last) :: rest, n =>
    if n < first then false else if n ≤ last then true else RangeTable.contains rest n

end ContractBuild.Text
