import Mathlib.Algebra.BigOperators.Group.List.Basic
import Mathlib.Algebra.CharZero.Defs
import Mathlib.Algebra.Field.Basic
import Mathlib.Data.Nat.Cast.Basic
import Mathlib.Tactic.LinearCombination
import Mathlib.Tactic.Ring

/-! The arithmetic mean of a list, and its update by one value. -/

namespace X5MaxDevice.Mean

variable {K : Type*} [Field K]

def mean (values : List K) : K := values.sum / values.length

theorem mean_nil : mean ([] : List K) = 0 := by
  rw [mean, List.sum_nil, zero_div]

/-- The mean of `n` values from the mean of the others and the last one. -/
def update (before : K) (n : Nat) (value : K) : K := (before * (n - 1) + value) / n

variable [CharZero K]

theorem mean_snoc (values : List K) (value : K) :
    mean (values ++ [value]) = update (mean values) (values.length + 1) value := by
  have total : mean values * values.length = values.sum := by
    cases values with
    | nil => simp
    | cons first values =>
        have counted : ((first :: values).length : K) ≠ 0 := by
          rw [Nat.cast_ne_zero]
          exact Nat.succ_ne_zero _
        rw [mean, div_mul_cancel₀ _ counted]
  rw [mean, update, List.sum_append, List.sum_singleton, List.length_append, List.length_singleton]
  push_cast
  rw [add_sub_cancel_right, total]

/-- A wrong count shows, except for a value that is the mean. -/
theorem update_eq_iff (before value : K) {n k : Nat} (positive : n ≠ 0) (counted : k ≠ 0) :
    update before n value = update before k value ↔ n = k ∨ value = before := by
  have left : (n : K) ≠ 0 := Nat.cast_ne_zero.mpr positive
  have right : (k : K) ≠ 0 := Nat.cast_ne_zero.mpr counted
  rw [update, update, div_eq_div_iff left right]
  constructor
  · intro same
    have product : ((n : K) - k) * (value - before) = 0 := by
      linear_combination -same
    rcases mul_eq_zero.mp product with equal | equal
    · exact Or.inl (Nat.cast_injective (sub_eq_zero.mp equal))
    · exact Or.inr (sub_eq_zero.mp equal)
  · rintro (rfl | rfl)
    · rfl
    · ring

end X5MaxDevice.Mean
