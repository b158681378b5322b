import Mathlib.Algebra.Order.Field.Power
import Mathlib.Data.Rat.Cast.Order
import Bourse.Decimal.Basic

/-!
# Decimals as rational numbers

A decimal `coefficient · 10 ^ exponent` denotes one rational number, `Decimal.value`. The
comparisons of `Bourse.Decimal.Basic` rescale both sides to the smaller exponent and compare
coefficients; this module shows that they are exactly the comparisons of the values. Every
ordering fact about prices (transitivity, totality, strictness) is then an ordering fact in
`ℚ`, and two decimals with different exponents but one value are interchangeable.
-/

namespace Bourse.Decimal

/-- The rational number a decimal denotes. -/
def value (amount : Decimal) : ℚ := amount.coefficient * (10 : ℚ) ^ amount.exponent

@[simp] theorem value_ofInt (number : Int) : (ofInt number).value = number := by
  simp [value, ofInt]

/-- A numeral is the decimal of that integer. -/
@[simp] theorem value_ofNat (number : Nat) :
    (no_index (OfNat.ofNat number : Decimal)).value = number :=
  (value_ofInt number).trans (Int.cast_natCast number)

/-- The power the model writes as `Int.pow` is the monoid power. -/
theorem int_pow_eq_pow (base : Int) (exponent : Nat) : Int.pow base exponent = base ^ exponent :=
  rfl

/-- Rescaling to an exponent at or below the decimal's own keeps its value: the shifted
coefficient, scaled back by the target power, is the value. -/
theorem coefficientAt_mul_pow (amount : Decimal) {target : Int}
    (below : target ≤ amount.exponent) :
    (amount.coefficientAt target : ℚ) * 10 ^ target = amount.value := by
  have shift : ((amount.exponent - target).toNat : Int) = amount.exponent - target :=
    Int.toNat_of_nonneg (by omega)
  rw [coefficientAt, int_pow_eq_pow, value]
  push_cast
  rw [mul_assoc, ← zpow_natCast, shift, ← zpow_add₀ (by norm_num)]
  simp

/-- Comparing two coefficients at a common exponent below both compares the values, since
both sides are the values divided by the same positive power. -/
theorem coefficientAt_lt_iff (left right : Decimal) {target : Int}
    (belowLeft : target ≤ left.exponent) (belowRight : target ≤ right.exponent) :
    left.coefficientAt target < right.coefficientAt target ↔ left.value < right.value := by
  have positive : (0 : ℚ) < 10 ^ target := zpow_pos (by norm_num) target
  rw [← coefficientAt_mul_pow left belowLeft, ← coefficientAt_mul_pow right belowRight,
    mul_lt_mul_iff_left₀ positive]
  exact_mod_cast Iff.rfl

theorem coefficientAt_eq_iff (left right : Decimal) {target : Int}
    (belowLeft : target ≤ left.exponent) (belowRight : target ≤ right.exponent) :
    left.coefficientAt target = right.coefficientAt target ↔ left.value = right.value := by
  have positive : (10 : ℚ) ^ target ≠ 0 := zpow_ne_zero target (by norm_num)
  rw [← coefficientAt_mul_pow left belowLeft, ← coefficientAt_mul_pow right belowRight,
    mul_left_inj' positive]
  exact_mod_cast Iff.rfl

/-- `lt` is the order of the values. -/
@[simp] theorem lt_eq_true_iff (left right : Decimal) :
    left.lt right = true ↔ left.value < right.value := by
  simp only [lt, compare, beq_iff_eq, Int.compare_eq_lt]
  exact coefficientAt_lt_iff left right (min_le_left _ _) (min_le_right _ _)

/-- `le` is the order of the values. -/
@[simp] theorem le_eq_true_iff (left right : Decimal) :
    left.le right = true ↔ left.value ≤ right.value := by
  simp only [le, compare, bne_iff_ne, ne_eq, Int.compare_ne_gt]
  rw [le_iff_lt_or_eq, le_iff_lt_or_eq,
    coefficientAt_lt_iff left right (min_le_left _ _) (min_le_right _ _),
    coefficientAt_eq_iff left right (min_le_left _ _) (min_le_right _ _)]

/-- `equals` is equality of the values. -/
@[simp] theorem equals_eq_true_iff (left right : Decimal) :
    left.equals right = true ↔ left.value = right.value := by
  simp only [equals, compare, beq_iff_eq, Int.compare_eq_eq]
  exact coefficientAt_eq_iff left right (min_le_left _ _) (min_le_right _ _)

@[simp] theorem lt_eq_false_iff (left right : Decimal) :
    left.lt right = false ↔ right.value ≤ left.value := by
  rw [← Bool.not_eq_true, lt_eq_true_iff, not_lt]

@[simp] theorem le_eq_false_iff (left right : Decimal) :
    left.le right = false ↔ right.value < left.value := by
  rw [← Bool.not_eq_true, le_eq_true_iff, not_le]

end Bourse.Decimal
