import Mathlib.Algebra.BigOperators.Ring.List
import Mathlib.Algebra.Order.BigOperators.Group.List
import Mathlib.Algebra.Order.Field.Basic
import Mathlib.Tactic.FieldSimp
import Mathlib.Tactic.Ring

/-!
# Moments of a sample

The mean and the variance of a finite sample, in any ordered field.

* `variance_eq` — the variance from the sums of the values and of their squares.
* `variance_nonneg` — the variance is not negative.
-/

namespace Sampling

variable {K : Type*} [Field K]

/-- The arithmetic mean. -/
def mean (xs : List K) : K := xs.sum / xs.length

/-- The population variance: the mean of the squared distances to the mean. -/
def variance (xs : List K) : K := mean (xs.map fun x => (x - mean xs) ^ 2)

/-- The squared distances to any point, from the two sums. -/
lemma sum_sq_sub (xs : List K) (c : K) :
    (xs.map fun x => (x - c) ^ 2).sum =
      (xs.map (· ^ 2)).sum - 2 * c * xs.sum + xs.length * c ^ 2 := by
  induction xs with
  | nil => simp
  | cons x xs ih =>
      simp only [List.map_cons, List.sum_cons, ih, List.length_cons]
      push_cast
      ring

/-- **The variance from the two sums.** -/
theorem variance_eq [CharZero K] {xs : List K} (hne : xs ≠ []) :
    variance xs = (xs.map (· ^ 2)).sum / xs.length - mean xs ^ 2 := by
  have hlen : (xs.length : K) ≠ 0 := by
    rw [Nat.cast_ne_zero]
    exact fun h => hne (List.length_eq_zero_iff.mp h)
  have hsum : (xs.map fun x => (x - mean xs) ^ 2).sum = _ := sum_sq_sub xs (mean xs)
  unfold variance
  rw [mean, hsum, List.length_map]
  unfold mean
  field_simp
  ring

variable [LinearOrder K] [IsStrictOrderedRing K]

/-- **The variance is not negative.** -/
theorem variance_nonneg (xs : List K) : 0 ≤ variance xs := by
  refine div_nonneg (List.sum_nonneg ?_) (Nat.cast_nonneg _)
  intro y hy
  obtain ⟨x, -, rfl⟩ := List.mem_map.mp hy
  exact sq_nonneg _

end Sampling
