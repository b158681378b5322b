import Bourse.Event.Basic
import Bourse.Text.Quote

/-!
# Well-formed events

`MarketEvent.validate` checks the rules each kind of event must satisfy:

- no order quantity is negative;
- a bid buys and an offer sells, and for both the remaining quantity is the order quantity less
  the cumulative quantity, and not negative;
- a fill leaves nothing remaining, a partial fill leaves something but less than the order;
- a trade executes a positive quantity.

The first rule that fails is reported; `EventError.message` gives its text.
-/

namespace Bourse

/-- Why an event is not well formed. -/
inductive EventError where
  /-- An order was built from a side that neither buys nor sells. -/
  | unknownSide (side : Side)
  /-- The order quantity is negative. -/
  | negativeOrderQty (key : OrderKey) (orderQty : Int64)
  /-- A bid whose side is not buy. -/
  | bidNotBuying (key : OrderKey) (side : Side)
  /-- An offer whose side is not a sale. -/
  | offerNotSelling (key : OrderKey) (side : Side)
  /-- The remaining quantity is not the order quantity less the cumulative quantity. -/
  | remainingMismatch (key : OrderKey) (remainingQty orderQty cumQty : Int64)
  /-- The remaining quantity is negative. -/
  | negativeRemaining (key : OrderKey) (remainingQty : Int64)
  /-- A fill that leaves something remaining. -/
  | fillRemaining (key : OrderKey) (remainingQty : Int64)
  /-- A partial fill that leaves nothing, or the whole order, or more. -/
  | partialFillRemaining (key : OrderKey) (remainingQty orderQty : Int64)
  /-- A trade of no positive quantity. -/
  | nonPositiveExecution (execQty : Int64)
  /-- An order of no positive quantity offered to a book. -/
  | nonPositiveOrderQty (key : OrderKey) (orderQty : Int64)
  deriving Repr

/-- A 64-bit integer in decimal. -/
def int64Text (value : Int64) : String := toString value.toInt

/-- The reason, after the words `invalid market event`. -/
def EventError.detail : EventError → String
  | .unknownSide side => "unknown side " ++ quoteByte side.code
  | .negativeOrderQty key qty => key.text ++ " orderQty " ++ int64Text qty ++ " < 0"
  | .bidNotBuying key side => "bid " ++ key.text ++ " side " ++ side.name
  | .offerNotSelling key side => "offer " ++ key.text ++ " side " ++ side.name
  | .remainingMismatch key remaining qty cum =>
    key.text ++ " remainingQty " ++ int64Text remaining ++ " != orderQty " ++ int64Text qty ++
      " - cumQty " ++ int64Text cum
  | .negativeRemaining key remaining => key.text ++ " remainingQty " ++ int64Text remaining ++ " < 0"
  | .fillRemaining key remaining => "fill " ++ key.text ++ " remainingQty " ++ int64Text remaining
  | .partialFillRemaining key remaining qty =>
    "partial fill " ++ key.text ++ " remainingQty " ++ int64Text remaining ++ " orderQty " ++
      int64Text qty
  | .nonPositiveExecution qty => "execQty " ++ int64Text qty
  | .nonPositiveOrderQty key qty => key.text ++ " orderQty " ++ int64Text qty

/-- The full message. -/
def EventError.message (error : EventError) : String :=
  "invalid market event: " ++ error.detail

namespace MarketEvent

/-- An order on the side the header names: a bid for a buy, an offer for a sale; another side
is refused. -/
def newOrder (header : Header) : Except EventError MarketEvent :=
  if header.side.isBuy then .ok (newBid header)
  else if header.side.isSell then .ok (newOffer header)
  else .error (.unknownSide header.side)

/-- The quantities of a resting order add up: remaining is order less cumulative, and not
negative. -/
def checkResting (header : Header) : Except EventError Unit :=
  if header.remainingQty != header.orderQty - header.cumQty then
    .error (.remainingMismatch header.key header.remainingQty header.orderQty header.cumQty)
  else if header.remainingQty < 0 then .error (.negativeRemaining header.key header.remainingQty)
  else .ok ()

/-- A trade executes a positive quantity. -/
def checkExecution (execution : Execution) : Except EventError Unit :=
  if execution.execQty ≤ 0 then .error (.nonPositiveExecution execution.execQty) else .ok ()

/-- Checks the rules of the module header, reporting the first that fails. -/
def validate (event : MarketEvent) : Except EventError Unit :=
  let header := event.header
  if header.orderQty < 0 then .error (.negativeOrderQty header.key header.orderQty)
  else match event with
    | .bid h =>
      if h.side != Side.buy then .error (.bidNotBuying h.key h.side) else checkResting h
    | .offer h =>
      if !h.side.isSell then .error (.offerNotSelling h.key h.side) else checkResting h
    | .fill h x =>
      if h.remainingQty != 0 then .error (.fillRemaining h.key h.remainingQty)
      else checkExecution x
    | .partialFill h x =>
      if h.remainingQty < 0 || h.remainingQty ≥ h.orderQty then
        .error (.partialFillRemaining h.key h.remainingQty h.orderQty)
      else checkExecution x

end MarketEvent

end Bourse
