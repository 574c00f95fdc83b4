/-!
# Closed intervals

`Interval α` is `min..=max`. It is empty when its minimum lies above its
maximum; membership is `min ≤ x ≤ max`, so an empty interval holds nothing.
-/

set_option autoImplicit false

namespace ArithQuiz

/-- The closed interval `min..=max`. -/
structure Interval (α : Type) where
  /-- Lower bound, included. -/
  min : α
  /-- Upper bound, included. -/
  max : α
deriving DecidableEq, Inhabited

namespace Interval

variable {α : Type} [LE α] [LT α] [DecidableRel (α := α) (· ≤ ·)] [DecidableRel (α := α) (· < ·)]

/-- Whether `x` lies in the interval. -/
def contains (r : Interval α) (x : α) : Bool := decide (r.min ≤ x) && decide (x ≤ r.max)

/-- Whether the minimum lies above the maximum. -/
def isEmpty (r : Interval α) : Bool := decide (r.max < r.min)

end Interval

end ArithQuiz
