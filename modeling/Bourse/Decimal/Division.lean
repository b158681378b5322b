import Bourse.Decimal.Basic

/-!
# Division and rounding of decimals

A quotient is cut to a fixed number of fractional places. `quotientTruncated` keeps the places
that are exact and drops the rest toward zero; `divRound` then moves the last kept place one
unit away from zero when the dropped part is at least half a unit, so halves round away from
zero. Average prices use sixteen places (`div`), volume-weighted prices eight. `round` is the
same rule applied to a single number, `remainder` the exact remainder of a truncated integer
quotient. The scale of a quotient is a 32-bit number, so a remainder whose dividend and divisor
have exponents 2³¹ or more apart cannot be computed: `remainderChecked` refuses it.
-/

namespace Bourse

namespace Decimal

/-- The places an ordinary division keeps after the decimal point. -/
def divisionPlaces : Nat := 16

/-- The division `dividend / divisor` written as a fraction of integers scaled so that its
integer part is the quotient with `places` fractional digits: numerator and denominator of
`dividend / divisor · 10 ^ places`. -/
def scaledFraction (dividend divisor : Decimal) (places : Nat) : Int × Int :=
  let shift := dividend.exponent - divisor.exponent + places
  if 0 ≤ shift then
    (dividend.coefficient * Int.pow 10 shift.toNat, divisor.coefficient)
  else
    (dividend.coefficient, divisor.coefficient * Int.pow 10 (-shift).toNat)

/-- The quotient with `places` fractional digits, truncated toward zero. A zero divisor gives
zero. -/
def quotientTruncated (dividend divisor : Decimal) (places : Nat) : Decimal :=
  let (numerator, denominator) := scaledFraction dividend divisor places
  ⟨numerator.tdiv denominator, -(places : Int)⟩

/-- The quotient rounded to `places` fractional digits, halves away from zero: the truncated
quotient moves one unit away from zero exactly when twice the dropped remainder reaches the
divisor. A zero divisor gives zero. -/
def divRound (dividend divisor : Decimal) (places : Nat) : Decimal :=
  let (numerator, denominator) := scaledFraction dividend divisor places
  let quotient := numerator.tdiv denominator
  let dropped := numerator.tmod denominator
  if 2 * dropped.natAbs < denominator.natAbs then
    ⟨quotient, -(places : Int)⟩
  else if numerator.sign * denominator.sign < 0 then
    ⟨quotient - 1, -(places : Int)⟩
  else
    ⟨quotient + 1, -(places : Int)⟩

/-- Division rounded to sixteen fractional places, halves away from zero. -/
def div (dividend divisor : Decimal) : Decimal := divRound dividend divisor divisionPlaces

/-- The exact remainder of the integer quotient truncated toward zero: it has the sign of the
dividend and a smaller magnitude than the divisor. -/
def remainder (dividend divisor : Decimal) : Decimal :=
  dividend - divisor * quotientTruncated dividend divisor 0

/-- The remainder of `remainder`, or the reason the arithmetic refuses it: the exponents of the
dividend and the divisor must differ by a 32-bit number. -/
def remainderChecked (dividend divisor : Decimal) : Except String Decimal :=
  let gap := dividend.exponent - divisor.exponent
  if gap < -2147483648 || 2147483647 < gap then .error "overflow in decimal QuoRem"
  else .ok (remainder dividend divisor)

/-- The number rounded to `places` fractional digits, halves away from zero, written with
exactly that many places. -/
def round (amount : Decimal) (places : Nat) : Decimal :=
  let shift := amount.exponent + places
  if 0 ≤ shift then
    ⟨amount.coefficient * Int.pow 10 shift.toNat, -(places : Int)⟩
  else
    let scale : Int := Int.pow 10 (-shift).toNat
    let kept := amount.coefficient.tdiv scale
    let dropped := amount.coefficient.tmod scale
    if 2 * dropped.natAbs < scale.natAbs then ⟨kept, -(places : Int)⟩
    else if amount.coefficient < 0 then ⟨kept - 1, -(places : Int)⟩
    else ⟨kept + 1, -(places : Int)⟩

theorem round_exponent (amount : Decimal) (places : Nat) :
    (amount.round places).exponent = -(places : Int) := by
  unfold round
  dsimp only
  split
  · rfl
  · split
    · rfl
    · split <;> rfl

end Decimal

end Bourse
