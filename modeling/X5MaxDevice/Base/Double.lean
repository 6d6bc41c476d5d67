import X5MaxDevice.Base.JavaFloat

/-! Arithmetic on doubles as rational numbers: every result is the nearest double. -/

namespace X5MaxDevice.Double

open X5MaxDevice.Java

/-- The double nearest to a number of a magnitude below the overflow. -/
def nearest (x : ℚ) : ℚ :=
  roundEven (x / binary64.spacing |x|) * binary64.spacing |x|

/-- The conversion to an integer type that holds the result. -/
def toInt (x : ℚ) : Int := x.num.tdiv x.den

theorem toInt_of_nonneg {x : ℚ} (nonneg : 0 ≤ x) : toInt x = ⌊x⌋ := by
  rw [toInt, Int.tdiv_eq_ediv_of_nonneg (Rat.num_nonneg.mpr nonneg), Rat.floor_def']

@[simp] theorem toInt_natCast (n : Nat) : toInt (n : ℚ) = n := by
  rw [toInt_of_nonneg (Nat.cast_nonneg n), Int.floor_natCast]

theorem roundEven_near (q : ℚ) : |(roundEven q : ℚ) - q| ≤ 1 / 2 := by
  have low := Int.floor_le q
  have high := Int.lt_floor_add_one q
  rw [abs_le]
  simp only [roundEven]
  split
  · constructor <;> linarith
  · split
    · push_cast
      constructor <;> linarith
    · split
      · constructor <;> linarith
      · push_cast
        constructor <;> linarith

theorem spacing_pos (magnitude : ℚ) : 0 < binary64.spacing magnitude := by
  rw [BinaryFormat.spacing]
  positivity

theorem nearest_of_multiple {x : ℚ} {k : ℤ} (multiple : x = k * binary64.spacing |x|) :
    nearest x = x := by
  have division : x / binary64.spacing |x| = k := by
    rw [div_eq_iff (spacing_pos |x|).ne']
    exact multiple
  rw [nearest, division, roundEven_intCast, ← multiple]

theorem nearest_error (x : ℚ) : |nearest x - x| ≤ binary64.spacing |x| / 2 := by
  have positive := spacing_pos |x|
  have near := roundEven_near (x / binary64.spacing |x|)
  have scaled : nearest x - x =
      ((roundEven (x / binary64.spacing |x|) : ℚ) - x / binary64.spacing |x|) *
        binary64.spacing |x| := by
    rw [sub_mul, div_mul_cancel₀ _ positive.ne', nearest]
  rw [scaled, abs_mul, abs_of_pos positive]
  calc
    abs (roundEven (x / binary64.spacing |x|) - x / binary64.spacing |x|) * binary64.spacing |x| ≤
        1 / 2 * binary64.spacing |x| := mul_le_mul_of_nonneg_right near positive.le
    _ = binary64.spacing |x| / 2 := by ring

/-- The integers of at most 52 bits are doubles. -/
theorem nearest_natCast {n : Nat} (small : n < 2 ^ 52) : nearest (n : ℚ) = n := by
  have log : Int.log 2 |(n : ℚ)| = (Nat.log 2 n : ℤ) := by
    rw [abs_of_nonneg (Nat.cast_nonneg n)]
    exact Int.log_natCast 2 n
  have few : Nat.log 2 n ≤ 52 := by
    calc
      Nat.log 2 n ≤ Nat.log 2 (2 ^ 52) := Nat.log_mono_right small.le
      _ = 52 := Nat.log_pow (by decide) 52
  have fine : max ((Nat.log 2 n : ℤ) - (53 - 1)) (-1074) ≤ 0 := by omega
  have spacing : binary64.spacing |(n : ℚ)| =
      2 ^ max ((Nat.log 2 n : ℤ) - (53 - 1)) (-1074) := by
    rw [BinaryFormat.spacing, binary64, log]
  refine @nearest_of_multiple _ (n * 2 ^ (-max ((Nat.log 2 n : ℤ) - (53 - 1)) (-1074)).toNat) ?_
  rw [spacing]
  push_cast
  rw [← zpow_natCast, Int.toNat_of_nonneg (by omega), mul_assoc, ← zpow_add₀ (by norm_num)]
  simp

theorem spacing_le {x : ℚ} (nonneg : 0 ≤ x) (high : x < 2 ^ 20) :
    binary64.spacing |x| ≤ 1 / 2 ^ 33 := by
  have log : Int.log 2 |x| ≤ 19 := by
    rw [abs_of_nonneg nonneg]
    rcases nonneg.eq_or_lt with zero | positive
    · rw [← zero, Int.log_zero_right]
      decide
    · have bound : x < ((2 : ℕ) : ℚ) ^ (20 : ℤ) := by exact_mod_cast high
      have below := (Int.lt_zpow_iff_log_lt (by decide) positive).mp bound
      omega
  calc
    binary64.spacing |x| = (2 : ℚ) ^ max (Int.log 2 |x| - (53 - 1)) (-1074) := rfl
    _ ≤ (2 : ℚ) ^ (-33 : ℤ) := zpow_le_zpow_right₀ (by norm_num) (by omega)
    _ = 1 / 2 ^ 33 := by norm_num

/-- A quotient of small integers is not rounded across an integer. -/
theorem toInt_nearest_div {n m : Nat} (positive : 0 < m) (small : n < 2 ^ 20) (few : m < 2 ^ 20) :
    toInt (nearest ((n : ℚ) / m)) = (n / m : Nat) := by
  have denominator : (0 : ℚ) < m := by exact_mod_cast positive
  have parts : (n : ℚ) / m = (n / m : Nat) + ((n % m : Nat) : ℚ) / m := by
    rw [div_eq_iff denominator.ne', add_mul, div_mul_cancel₀ _ denominator.ne']
    exact_mod_cast (Nat.div_add_mod' n m).symm
  rcases Nat.eq_zero_or_pos (n % m) with whole | partly
  · have exact : (n : ℚ) / m = (n / m : Nat) := by simpa [whole] using parts
    have less := Nat.div_le_self n m
    rw [exact, nearest_natCast (show n / m < 2 ^ 52 by omega), toInt_natCast]
  · have nonneg : (0 : ℚ) ≤ n / m := by positivity
    have bound : (n : ℚ) / m < 2 ^ 20 := by
      calc
        (n : ℚ) / m ≤ n := div_le_self (Nat.cast_nonneg n) (by exact_mod_cast positive)
        _ < 2 ^ 20 := by exact_mod_cast small
    have error := abs_le.mp ((nearest_error ((n : ℚ) / m)).trans
      (div_le_div_of_nonneg_right (spacing_le nonneg bound) (by norm_num)))
    -- a fraction that is no integer keeps a distance of 1 / m
    have unit : (1 : ℚ) / 2 ^ 33 / 2 < 1 / m := by
      have wide : (m : ℚ) < 2 ^ 20 := by exact_mod_cast few
      have quotient : (1 : ℚ) / 2 ^ 20 < 1 / m := one_div_lt_one_div_of_lt denominator wide
      linarith
    have low : (1 : ℚ) / m ≤ ((n % m : Nat) : ℚ) / m :=
      div_le_div_of_nonneg_right (by exact_mod_cast partly) denominator.le
    have high : ((n % m : Nat) : ℚ) / m ≤ 1 - 1 / m := by
      have below : ((n % m : Nat) : ℚ) + 1 ≤ m := by exact_mod_cast Nat.mod_lt n positive
      rw [le_sub_iff_add_le, ← add_div]
      exact (div_le_one denominator).mpr below
    have floor : ⌊nearest ((n : ℚ) / m)⌋ = ((n / m : Nat) : ℤ) := by
      rw [Int.floor_eq_iff, Int.cast_natCast]
      constructor <;> linarith
    have whole : (0 : ℚ) ≤ (n / m : Nat) := Nat.cast_nonneg _
    rw [toInt_of_nonneg (by linarith), floor]

end X5MaxDevice.Double
