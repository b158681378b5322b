/-!
# Exact decimal numbers

Prices and averages are exact decimals `coefficient · 10 ^ exponent`. Two decimals with
different exponents may denote the same number (`1.50` and `1.5`); every operation here depends
only on the numbers denoted, and comparison writes both sides with the smaller exponent.
Addition, subtraction and multiplication are exact; division and rounding live in
`Bourse.Decimal.Division`, reading and printing in `Bourse.Decimal.Text`.
-/

namespace Bourse

/-- A decimal number `coefficient · 10 ^ exponent`, kept exactly. -/
structure Decimal where
  /-- The digits, with their sign. -/
  coefficient : Int
  /-- The power of ten the digits are scaled by. -/
  exponent : Int
  deriving Repr, Inhabited

namespace Decimal

/-- The number zero. -/
def zero : Decimal := ⟨0, 0⟩

/-- An integer as a decimal. -/
def ofInt (value : Int) : Decimal := ⟨value, 0⟩

/-- A 64-bit quantity as a decimal. -/
def ofInt64 (value : Int64) : Decimal := ⟨value.toInt, 0⟩

/-- The decimal `1 · 10 ^ exponent`: one unit in the place the exponent names. -/
def unit (exponent : Int) : Decimal := ⟨1, exponent⟩

instance : OfNat Decimal n := ⟨ofInt n⟩

/-- The coefficient of the same number written with the exponent `target`, which must not
exceed the decimal's own exponent: the digits are shifted left by the difference. -/
def coefficientAt (amount : Decimal) (target : Int) : Int :=
  amount.coefficient * Int.pow 10 (amount.exponent - target).toNat

/-- The same number written with the exponent `target`, for a target no larger than the
decimal's own exponent. -/
def rescale (amount : Decimal) (target : Int) : Decimal :=
  ⟨amount.coefficientAt target, target⟩

/-- The negated number. -/
def neg (amount : Decimal) : Decimal := ⟨-amount.coefficient, amount.exponent⟩

/-- The absolute value. -/
def abs (amount : Decimal) : Decimal := ⟨amount.coefficient.natAbs, amount.exponent⟩

/-- The exact sum: both summands are written with the smaller exponent and their
coefficients added. -/
def add (left right : Decimal) : Decimal :=
  let common := min left.exponent right.exponent
  ⟨left.coefficientAt common + right.coefficientAt common, common⟩

/-- The exact difference. -/
def sub (left right : Decimal) : Decimal := left.add right.neg

/-- The exact product: coefficients multiply and exponents add. -/
def mul (left right : Decimal) : Decimal :=
  ⟨left.coefficient * right.coefficient, left.exponent + right.exponent⟩

instance : Add Decimal := ⟨add⟩
instance : Sub Decimal := ⟨sub⟩
instance : Mul Decimal := ⟨mul⟩
instance : Neg Decimal := ⟨neg⟩

/-- The sign of the number: `-1`, `0` or `1`. -/
def sign (amount : Decimal) : Int := amount.coefficient.sign

/-- Whether the number is zero. -/
def isZero (amount : Decimal) : Bool := amount.coefficient == 0

/-- Whether the number is greater than zero. -/
def isPositive (amount : Decimal) : Bool := amount.coefficient > 0

/-- Whether the number is less than zero. -/
def isNegative (amount : Decimal) : Bool := amount.coefficient < 0

/-- Numbers are compared by writing both with the smaller exponent and comparing the
coefficients; the exponents themselves play no part. -/
def compare (left right : Decimal) : Ordering :=
  let common := min left.exponent right.exponent
  Ord.compare (left.coefficientAt common) (right.coefficientAt common)

/-- Two decimals are equal as numbers. -/
def equals (left right : Decimal) : Bool := left.compare right == .eq

/-- The first number is smaller than the second. -/
def lt (left right : Decimal) : Bool := left.compare right == .lt

/-- The first number is at most the second. -/
def le (left right : Decimal) : Bool := left.compare right != .gt

instance : BEq Decimal := ⟨equals⟩

/-- The smaller of two numbers; the first when they are equal. -/
def min (left right : Decimal) : Decimal := if right.lt left then right else left

/-- The larger of two numbers; the first when they are equal. -/
def max (left right : Decimal) : Decimal := if left.lt right then right else left

/-- The sum of a list of decimals. -/
def sum (amounts : List Decimal) : Decimal := amounts.foldl add zero

@[simp] theorem coefficientAt_self (amount : Decimal) :
    amount.coefficientAt amount.exponent = amount.coefficient := by
  simp [coefficientAt, Int.pow]

@[simp] theorem mul_coefficient (left right : Decimal) :
    (left.mul right).coefficient = left.coefficient * right.coefficient := rfl

@[simp] theorem mul_exponent (left right : Decimal) :
    (left.mul right).exponent = left.exponent + right.exponent := rfl

end Decimal

end Bourse
