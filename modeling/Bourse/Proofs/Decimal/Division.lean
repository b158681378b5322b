import Mathlib.Data.Rat.Floor
import Mathlib.Algebra.Order.Field.Power
import Mathlib.Tactic.FieldSimp
import Mathlib.Tactic.GCongr
import Mathlib.Tactic.Linarith
import Mathlib.Tactic.Positivity
import Mathlib.Tactic.Ring
import Bourse.Decimal.Division
import Bourse.Proofs.Decimal.Order

/-!
# Division rounds half away from zero

`Decimal.divRound` computes a quotient to a fixed number of places by an integer division of
scaled coefficients and a look at the remainder. This module shows that its value is the exact
quotient of the values rounded to that many places, halves away from zero (`value_divRound`).

The rounding is `roundTo`, built on `roundAway`, which rounds a rational to an integer. It is
monotone (`roundTo_mono`), keeps every number of the grid (`roundTo_intCast_div`), and so
rounding twice is rounding once (`roundTo_roundTo`). A decimal with at most `places` fractional
digits is on the grid (`roundTo_value`). Sums and products of decimals are exact
(`value_add`, `value_mul`).
-/

namespace Bourse.Decimal

/-! ## Exact operations -/

@[simp] theorem value_add (left right : Decimal) :
    (left + right).value = left.value + right.value := by
  show (add left right).value = _
  have atLeft := coefficientAt_mul_pow left (min_le_left left.exponent right.exponent)
  have atRight := coefficientAt_mul_pow right (min_le_right left.exponent right.exponent)
  rw [← atLeft, ← atRight]
  simp only [add, value]
  push_cast
  ring

@[simp] theorem value_mul (left right : Decimal) :
    (left * right).value = left.value * right.value := by
  show (mul left right).value = _
  simp only [mul, value]
  push_cast
  rw [zpow_add₀ (by norm_num)]
  ring

@[simp] theorem value_ofInt64 (number : Int64) : (ofInt64 number).value = number.toInt := by
  simp [value, ofInt64]

/-! ## Rounding a rational -/

/-- A rational rounded to the nearest integer, halves away from zero. -/
def roundAway (x : ℚ) : ℤ := if 0 ≤ x then ⌊x + 1 / 2⌋ else -⌊-x + 1 / 2⌋

/-- A rational rounded to `places` fractional digits, halves away from zero. -/
def roundTo (places : ℕ) (x : ℚ) : ℚ := roundAway (x * 10 ^ places) / 10 ^ places

theorem roundAway_nonneg {x : ℚ} (nonneg : 0 ≤ x) : 0 ≤ roundAway x := by
  simp only [roundAway, if_pos nonneg]
  exact Int.floor_nonneg.mpr (by linarith)

theorem roundAway_nonpos {x : ℚ} (negative : x < 0) : roundAway x ≤ 0 := by
  simp only [roundAway, if_neg (not_le.mpr negative)]
  have : 0 ≤ ⌊-x + 1 / 2⌋ := Int.floor_nonneg.mpr (by linarith)
  omega

theorem roundAway_mono {x y : ℚ} (le : x ≤ y) : roundAway x ≤ roundAway y := by
  by_cases xSign : 0 ≤ x
  · have ySign : 0 ≤ y := xSign.trans le
    simp only [roundAway, if_pos xSign, if_pos ySign]
    exact Int.floor_mono (by linarith)
  · by_cases ySign : 0 ≤ y
    · exact (roundAway_nonpos (not_le.mp xSign)).trans (roundAway_nonneg ySign)
    · simp only [roundAway, if_neg xSign, if_neg ySign, neg_le_neg_iff]
      exact Int.floor_mono (by linarith)

/-- An integer is its own rounding. -/
@[simp] theorem roundAway_intCast (k : ℤ) : roundAway k = k := by
  by_cases sign : (0 : ℚ) ≤ k
  · simp only [roundAway, if_pos sign]
    rw [Int.floor_intCast_add]
    norm_num
  · simp only [roundAway, if_neg sign, ← Int.cast_neg]
    rw [Int.floor_intCast_add]
    norm_num

theorem roundTo_mono (places : ℕ) : Monotone (roundTo places) := by
  intro x y le
  have scale : (0 : ℚ) < 10 ^ places := by positivity
  unfold roundTo
  gcongr
  exact_mod_cast roundAway_mono (by gcongr)

/-- A number of the grid, a whole number of units of the last place, is its own rounding. -/
theorem roundTo_intCast_div (places : ℕ) (k : ℤ) :
    roundTo places (k / 10 ^ places) = k / 10 ^ places := by
  have scale : (10 : ℚ) ^ places ≠ 0 := by positivity
  simp [roundTo, div_mul_cancel₀ _ scale]

theorem roundTo_roundTo (places : ℕ) (x : ℚ) :
    roundTo places (roundTo places x) = roundTo places x :=
  roundTo_intCast_div places _

/-- A decimal with at most `places` fractional digits is on the grid. -/
theorem roundTo_value {amount : Decimal} {places : ℕ} (fine : -(places : ℤ) ≤ amount.exponent) :
    roundTo places amount.value = amount.value := by
  have onGrid := coefficientAt_mul_pow amount fine
  rw [← onGrid, zpow_neg, zpow_natCast, ← div_eq_mul_inv]
  exact roundTo_intCast_div places _

/-! ## The integer quotient -/

/-- Rounding a nonnegative quotient of integers: the floor, one more when twice the remainder
reaches the divisor. -/
theorem roundAway_div_of_nonneg {n d : ℤ} (nonneg : 0 ≤ n) (positive : 0 < d) :
    roundAway ((n : ℚ) / d) = n / d + if d ≤ 2 * (n % d) then 1 else 0 := by
  have split : (n : ℚ) = d * (n / d : ℤ) + (n % d : ℤ) := by
    exact_mod_cast (Int.mul_ediv_add_emod n d).symm
  have remainderNonneg := Int.emod_nonneg n positive.ne'
  have remainderBelow := Int.emod_lt_of_pos n positive
  have dPositive : (0 : ℚ) < d := by exact_mod_cast positive
  have quotient : (n : ℚ) / d + 1 / 2 = (n / d : ℤ) + ((n % d : ℤ) / d + 1 / 2) := by
    rw [split]
    field_simp
    ring
  have nonnegQ : (0 : ℚ) ≤ n := by exact_mod_cast nonneg
  simp only [roundAway, if_pos (div_nonneg nonnegQ dPositive.le), quotient, Int.floor_intCast_add,
    add_right_inj]
  -- the fractional part and a half lie in [0, 2): the floor is 0 or 1 as the remainder says
  have r0 : (0 : ℚ) ≤ (n % d : ℤ) := by exact_mod_cast remainderNonneg
  have r1 : ((n % d : ℤ) : ℚ) < d := by exact_mod_cast remainderBelow
  have frac : ((n % d : ℤ) : ℚ) / d + 1 / 2 = (2 * (n % d : ℤ) + d) / (2 * d) := by
    field_simp
  rw [frac, Int.floor_eq_iff]
  have doubled : (0 : ℚ) < 2 * d := by positivity
  split
  · rename_i reaches
    have reachesQ : (d : ℚ) ≤ 2 * (n % d : ℤ) := by exact_mod_cast reaches
    rw [le_div_iff₀ doubled, div_lt_iff₀ doubled]
    push_cast
    constructor <;> linarith
  · rename_i short
    have shortQ : 2 * ((n % d : ℤ) : ℚ) < d := by exact_mod_cast not_le.mp short
    rw [le_div_iff₀ doubled, div_lt_iff₀ doubled]
    push_cast
    constructor <;> linarith

/-- The integer the division keeps, from the truncated quotient and the dropped remainder, is
the rounding of the quotient, halves away from zero. -/
theorem roundAway_div (n : ℤ) {d : ℤ} (positive : 0 < d) :
    (if 2 * (n.tmod d).natAbs < d.natAbs then n.tdiv d
      else if n.sign * d.sign < 0 then n.tdiv d - 1 else n.tdiv d + 1) =
      roundAway ((n : ℚ) / d) := by
  have dSign : d.sign = 1 := Int.sign_eq_one_of_pos positive
  by_cases sign : 0 ≤ n
  · have notBelow : ¬ n.sign * d.sign < 0 := by
      rw [dSign, mul_one]
      exact not_lt.mpr (Int.sign_nonneg_iff.mpr sign)
    rw [roundAway_div_of_nonneg sign positive, Int.tdiv_eq_ediv_of_nonneg sign,
      Int.tmod_eq_emod_of_nonneg sign, if_neg notBelow]
    have remainderNonneg := Int.emod_nonneg n positive.ne'
    split <;> split <;> omega
  · -- a negative quotient rounds as its opposite does, with the sign turned
    have opposite : 0 ≤ -n := by omega
    have below : n.sign * d.sign < 0 := by
      rw [dSign, mul_one, Int.sign_eq_neg_one_of_neg (by omega)]
      decide
    have dPositive : (0 : ℚ) < d := by exact_mod_cast positive
    have nBelow : (n : ℚ) < 0 := by exact_mod_cast not_le.mp sign
    have negative : ¬ (0 : ℚ) ≤ n / d := not_le.mpr (div_neg_of_neg_of_pos nBelow dPositive)
    have flipped := roundAway_div_of_nonneg opposite positive
    have asOpposite : roundAway ((n : ℚ) / d) = -roundAway (((-n : ℤ) : ℚ) / d) := by
      rw [roundAway, if_neg negative, roundAway,
        if_pos (div_nonneg (by exact_mod_cast opposite) dPositive.le)]
      push_cast
      ring_nf
    have quotient : n.tdiv d = -((-n) / d) := by
      rw [← Int.tdiv_eq_ediv_of_nonneg opposite, Int.neg_tdiv, neg_neg]
    have remainder : n.tmod d = -((-n) % d) := by
      rw [← Int.tmod_eq_emod_of_nonneg opposite, Int.neg_tmod, neg_neg]
    rw [asOpposite, flipped, quotient, remainder, if_pos below]
    have remainderNonneg := Int.emod_nonneg (-n) positive.ne'
    split <;> split <;> omega

/-! ## The quotient of two decimals -/

/-- A power of ten with a natural exponent written as an integer. -/
theorem zpow_toNat {shift : ℤ} (nonneg : 0 ≤ shift) : (10 : ℚ) ^ shift.toNat = 10 ^ shift := by
  rw [← zpow_natCast, Int.toNat_of_nonneg nonneg]

/-- The scaled fraction is the quotient of the values shifted by `places` digits, and over a
positive divisor its denominator is positive. -/
theorem scaledFraction_spec (dividend divisor : Decimal) (places : ℕ)
    (positive : 0 < divisor.coefficient) :
    0 < (scaledFraction dividend divisor places).2 ∧
    ((scaledFraction dividend divisor places).1 : ℚ) / (scaledFraction dividend divisor places).2 =
      dividend.value / divisor.value * 10 ^ places := by
  have ten : (10 : ℚ) ≠ 0 := by norm_num
  have divisorQ : (divisor.coefficient : ℚ) ≠ 0 := by exact_mod_cast positive.ne'
  -- both sides are the coefficients' quotient times ten to the shift
  have shifted : dividend.value / divisor.value * 10 ^ places =
      dividend.coefficient / divisor.coefficient *
        10 ^ (dividend.exponent - divisor.exponent + places) := by
    rw [zpow_add₀ ten, zpow_sub₀ ten, zpow_natCast, value, value]
    field_simp
  rw [shifted]
  unfold scaledFraction
  dsimp only
  split
  · rename_i nonneg
    refine ⟨positive, ?_⟩
    simp only [int_pow_eq_pow]
    push_cast
    rw [zpow_toNat nonneg]
    ring
  · rename_i negative
    refine ⟨mul_pos positive (by rw [int_pow_eq_pow]; positivity), ?_⟩
    simp only [int_pow_eq_pow]
    push_cast
    rw [zpow_toNat (by omega), zpow_neg]
    field_simp

/-- Division keeps the quotient of the values rounded to `places` digits, halves away from
zero, for a positive divisor. -/
theorem value_divRound (dividend divisor : Decimal) (places : ℕ)
    (positive : 0 < divisor.coefficient) :
    (divRound dividend divisor places).value = roundTo places (dividend.value / divisor.value) := by
  obtain ⟨denominatorPositive, fraction⟩ := scaledFraction_spec dividend divisor places positive
  have rounded := roundAway_div (scaledFraction dividend divisor places).1 denominatorPositive
  rw [fraction] at rounded
  unfold divRound
  generalize scaledFraction dividend divisor places = pair at rounded
  obtain ⟨numerator, denominator⟩ := pair
  dsimp only at rounded ⊢
  rw [roundTo, ← rounded]
  split
  · simp [value, zpow_neg, div_eq_mul_inv]
  · split <;> simp [value, zpow_neg, div_eq_mul_inv]

end Bourse.Decimal
