import Bourse.Decimal.Division
import Bourse.Decimal.Text

/-!
# Symbol constraints

What a symbol accepts: a positive quantity within the bounds that are set (a bound of zero or
less is not set), and, for a limit order, a positive price that is a whole number of ticks when
a tick size is set. Market orders have no price to check.
-/

namespace Bourse

/-- The price grid and quantity bounds of a symbol. -/
structure SymbolConstraints where
  /-- The tick size; zero or less means any price. -/
  tickSize : Decimal
  /-- The least quantity; zero or less means no bound. -/
  minQty : Int64
  /-- The greatest quantity; zero or less means no bound. -/
  maxQty : Int64
  deriving Repr, Inhabited

/-- Why an order breaks the constraints. -/
inductive ConstraintError where
  /-- The quantity is zero or negative. -/
  | nonPositiveQty (qty : Int64)
  /-- The quantity is below the least. -/
  | belowMin (qty least : Int64)
  /-- The quantity is above the greatest. -/
  | aboveMax (qty greatest : Int64)
  /-- The price is zero or negative. -/
  | nonPositivePrice (price : Decimal)
  /-- The price is off the tick grid. -/
  | offTick (price tick : Decimal)
  deriving Repr

namespace ConstraintError

/-- Whether the quantity is at fault (else the price is). -/
def isQuantity : ConstraintError → Bool
  | .nonPositiveQty _ | .belowMin .. | .aboveMax .. => true
  | _ => false

/-- The message of the error. -/
def message : ConstraintError → String
  | .nonPositiveQty qty => "incorrect quantity: qty " ++ toString qty.toInt ++ " <= 0"
  | .belowMin qty least =>
    "incorrect quantity: qty " ++ toString qty.toInt ++ " < minQty " ++ toString least.toInt
  | .aboveMax qty greatest =>
    "incorrect quantity: qty " ++ toString qty.toInt ++ " > maxQty " ++ toString greatest.toInt
  | .nonPositivePrice price => "incorrect price: price " ++ price.toText ++ " <= 0"
  | .offTick price tick =>
    "incorrect price: price " ++ price.toText ++ " not aligned to tickSize " ++ tick.toText

end ConstraintError

/-- Checks an order's price and quantity; a market order's price is not checked. The check
gives its verdict, unless it breaks down: a price and a tick too far apart in scale to divide
(see `Decimal.remainderChecked`) stop it with the reason. -/
def SymbolConstraints.check (limits : SymbolConstraints) (price : Decimal) (qty : Int64)
    (market : Bool) : Except String (Except ConstraintError Unit) :=
  if qty ≤ 0 then .ok (.error (.nonPositiveQty qty))
  else if limits.minQty > 0 && qty < limits.minQty then .ok (.error (.belowMin qty limits.minQty))
  else if limits.maxQty > 0 && qty > limits.maxQty then .ok (.error (.aboveMax qty limits.maxQty))
  else if market then .ok (.ok ())
  else if !price.isPositive then .ok (.error (.nonPositivePrice price))
  else if !limits.tickSize.isPositive then .ok (.ok ())
  else (Decimal.remainderChecked price limits.tickSize).map fun rest =>
    if rest.isZero then .ok () else .error (.offTick price limits.tickSize)

end Bourse
