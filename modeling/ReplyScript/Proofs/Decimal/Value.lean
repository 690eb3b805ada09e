import Mathlib.Algebra.Order.Field.Power
import Mathlib.Data.Rat.Cast.Order
import Mathlib.Tactic.Linarith
import Mathlib.Tactic.Positivity
import Mathlib.Tactic.Ring
import ReplyScript.Decimal.Binary

/-! # Exact values of binary numbers

A binary number stands for a rational number, and what is computed from its fields on whole numbers
is about that value. Main statements: `Binary.toNat?_eq_some_iff` and `Binary.sameValue_iff`.
-/

namespace ReplyScript.Decimal

theorem value_scaleFraction (num den : Nat) (e : Int) :
    ((scaleFraction num den e).1 : ℚ) / (scaleFraction num den e).2 = num / den * 2 ^ e := by
  unfold scaleFraction
  by_cases up : 0 ≤ e
  · obtain ⟨k, rfl⟩ := Int.eq_ofNat_of_zero_le up
    simp only [up, if_true, Int.toNat_natCast, Nat.pow_eq, Nat.cast_mul, Nat.cast_pow,
      Nat.cast_ofNat, zpow_natCast]
    ring
  · obtain ⟨k, down⟩ := Int.eq_ofNat_of_zero_le (Int.neg_nonneg_of_nonpos (Int.le_of_not_le up))
    obtain rfl : e = -(k : Int) := by omega
    simp only [up, if_false, Int.neg_neg, Int.toNat_natCast, Nat.pow_eq, Nat.cast_mul,
      Nat.cast_pow, Nat.cast_ofNat, zpow_neg, zpow_natCast]
    ring

theorem scaleFraction_den_pos {num den : Nat} (positive : 0 < den) (e : Int) :
    0 < (scaleFraction num den e).2 := by
  unfold scaleFraction
  split
  · exact positive
  · exact Nat.mul_pos positive (Nat.pow_pos (by decide))

/-- A fraction is worth a whole number exactly if it divides out to it. -/
theorem div_eq_natCast_iff {num den : Nat} (positive : 0 < den) {n : Nat} :
    (num : ℚ) / den = n ↔ num % den = 0 ∧ num / den = n := by
  have nonzero : (den : ℚ) ≠ 0 := by positivity
  rw [div_eq_iff nonzero]
  norm_cast
  constructor
  · rintro rfl
    exact ⟨Nat.mul_mod_left n den, Nat.mul_div_cancel n positive⟩
  · rintro ⟨whole, rfl⟩
    exact (Nat.div_mul_cancel (Nat.dvd_of_mod_eq_zero whole)).symm

namespace Binary

/-- The size of a number, without its sign. -/
def magnitude (x : Binary) : ℚ :=
  x.significand * 2 ^ x.exponent

/-- The number that a binary number stands for. -/
def value (x : Binary) : ℚ :=
  if x.negative then -x.magnitude else x.magnitude

variable {x : Binary}

theorem magnitude_eq_fraction (x : Binary) :
    x.magnitude = (x.fraction.1 : ℚ) / x.fraction.2 := by
  rw [fraction, value_scaleFraction, Nat.cast_one, div_one, magnitude]

theorem magnitude_nonneg (x : Binary) : 0 ≤ x.magnitude := by
  unfold magnitude
  positivity

theorem magnitude_eq_zero_iff : x.magnitude = 0 ↔ x.isZero = true := by
  unfold magnitude isZero
  rw [mul_eq_zero, or_iff_left (zpow_ne_zero _ (by decide)), Nat.cast_eq_zero, beq_iff_eq]

theorem value_eq_natCast_iff {n : Nat} :
    x.value = n ↔ (x.negative && !x.isZero) = false ∧ x.magnitude = n := by
  unfold value
  cases x.negative with
  | false => simp only [Bool.false_and, true_and, Bool.false_eq_true, if_false]
  | true =>
      simp only [if_true, Bool.true_and, Bool.not_eq_false']
      rw [← magnitude_eq_zero_iff]
      have low := x.magnitude_nonneg
      have high : (0 : ℚ) ≤ n := Nat.cast_nonneg n
      constructor
      · intro same
        exact ⟨by linarith, by linarith⟩
      · rintro ⟨zero, same⟩
        linarith

/-- A number is a whole number that is not negative exactly if that is its value. -/
theorem toNat?_eq_some_iff {n : Nat} : x.toNat? = some n ↔ x.value = n := by
  have positive : 0 < x.fraction.2 := scaleFraction_den_pos Nat.one_pos _
  rw [value_eq_natCast_iff, magnitude_eq_fraction, div_eq_natCast_iff positive]
  simp only [toNat?]
  cases (x.negative && !x.isZero) with
  | true => simp only [if_true, reduceCtorEq, Bool.true_eq_false, false_and]
  | false =>
      simp only [Bool.false_eq_true, if_false, true_and]
      split
      · rename_i whole
        simp only [Option.some.injEq, whole, true_and]
      · rename_i broken
        simp only [reduceCtorEq, broken, false_and]

/-- A number is a whole number of steps that are no wider than its own. -/
theorem magnitude_steps {unit : Int} (wider : unit ≤ x.exponent) :
    x.magnitude = (x.significand * 2 ^ (x.exponent - unit).toNat : Nat) * 2 ^ unit := by
  obtain ⟨k, gap⟩ := Int.eq_ofNat_of_zero_le (Int.sub_nonneg.mpr wider)
  rw [magnitude, gap, Int.toNat_natCast, show x.exponent = k + unit by omega,
    zpow_add₀ two_ne_zero, zpow_natCast]
  push_cast
  ring

theorem value_steps {unit : Int} (wider : unit ≤ x.exponent) :
    x.value = x.inUnitsOf unit * 2 ^ unit := by
  unfold value inUnitsOf
  rw [magnitude_steps wider, Nat.pow_eq]
  cases x.negative with
  | false =>
      simp only [Bool.false_eq_true, if_false]
      push_cast
      rfl
  | true =>
      simp only [if_true]
      push_cast
      ring

/-- Numbers have the same value if they are the same number of the narrower steps. -/
theorem sameValue_iff {x y : Binary} : x.sameValue y = true ↔ x.value = y.value := by
  have unit_ne : (2 : ℚ) ^ min x.exponent y.exponent ≠ 0 := zpow_ne_zero _ two_ne_zero
  rw [value_steps (min_le_left x.exponent y.exponent),
    value_steps (min_le_right x.exponent y.exponent), mul_left_inj' unit_ne, Int.cast_inj]
  exact beq_iff_eq

end Binary

end ReplyScript.Decimal
