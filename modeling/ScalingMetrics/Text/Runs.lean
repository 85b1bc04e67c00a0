/-!
# Sets of characters as runs

A set of characters is given by the numbers at which its runs begin and end, in turn.
-/

namespace ScalingMetrics.Text

/-- Whether a number lies in one of the runs with the given bounds. -/
def inRuns (bounds : List Nat) (n : Nat) : Bool :=
  (bounds.takeWhile (· ≤ n)).length % 2 == 1

end ScalingMetrics.Text
