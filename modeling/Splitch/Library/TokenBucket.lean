/-
# Token buckets

A bucket fills at a rate up to its capacity, and is drawn from.  What it holds after some time is at most
what flowed in (`refill_le_add`) and its capacity; and a draw that is too large now is not once what it
lacks has flowed in (`le_refill_later`).
-/
import Mathlib.Algebra.Order.Field.Basic

namespace TokenBucket

variable {R : Type*} [Field R] [LinearOrder R]

/-- What a bucket of the capacity holds, that held `tokens` and filled at the rate for the time. -/
def refill (capacity rate tokens elapsed : R) : R := min capacity (tokens + elapsed * rate)

variable {capacity rate tokens elapsed wait cost : R}

theorem refill_le_capacity : refill capacity rate tokens elapsed ≤ capacity := min_le_left _ _

theorem refill_le_add : refill capacity rate tokens elapsed ≤ tokens + elapsed * rate :=
  min_le_right _ _

variable [IsStrictOrderedRing R]

/-- **A draw that waits** for what it lacks. -/
theorem le_refill_later (hcost : cost ≤ capacity)
    (hwait : cost ≤ refill capacity rate tokens elapsed + wait * rate) :
    cost ≤ refill capacity rate tokens (elapsed + wait) := by
  refine le_min hcost (hwait.trans ?_)
  rw [add_mul, ← add_assoc]
  exact add_le_add_left refill_le_add _

end TokenBucket
