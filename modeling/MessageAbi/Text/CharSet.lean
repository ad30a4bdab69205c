/-!
This module contains sets of characters given by the points where membership changes.
-/

namespace MessageAbi.Text

/--
Whether `n` lies in the set whose boundaries are listed in increasing order: each boundary is the
first number of a range inside or outside the set, and zero lies outside unless it is a boundary.
-/
def inRanges (boundaries : List Nat) (n : Nat) : Bool :=
  (boundaries.takeWhile (· ≤ n)).length % 2 == 1

example : inRanges [2, 4, 7] 1 = false ∧ inRanges [2, 4, 7] 3 = true := by decide

example : inRanges [2, 4, 7] 4 = false ∧ inRanges [2, 4, 7] 8 = true := by decide

end MessageAbi.Text
