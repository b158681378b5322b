import Bourse.Event.Trade

/-!
# Price-time matching

An aggressor order meets the resting orders of the other side in their priority order. The
first resting order that still has quantity and can trade with the aggressor sets the trade:

- two market orders never trade with each other; a resting market order that cannot trade is
  passed over;
- against a resting market order the aggressor's limit is the price; a market aggressor takes
  the resting order's limit;
- two limit orders trade when they cross (a bid at or above the offer), at the resting price;
- the first resting limit order that does not cross stops the search, since every later one
  is worse.

The quantity is the smaller of the two remaining quantities. `counterpart` is the same
execution seen from the resting order.
-/

namespace Bourse

/-- The ways of matching orders an exchange can be configured with. -/
inductive ExecutionStrategy where
  /-- Best price first, and among equal prices the earliest order. -/
  | priceTime
  deriving DecidableEq, Repr, Inhabited

/-- Why no strategy was chosen. -/
structure UnknownStrategy where
  /-- The name that was asked for. -/
  name : String
  deriving Repr

/-- The message naming the strategy that does not exist. -/
def UnknownStrategy.message (error : UnknownStrategy) : String :=
  "unknown execution strategy: " ++ error.name

namespace ExecutionStrategy

/-- The strategy of a configured name: `price_time`, which is also the default (the empty
name). -/
def ofName (name : String) : Except UnknownStrategy ExecutionStrategy :=
  if name == "" || name == "price_time" then .ok .priceTime else .error ⟨name⟩

end ExecutionStrategy

namespace PriceTime

/-- The price an aggressor and a resting order trade at, if they can: see the module header.
`crosses aggressorPrice restingPrice` says whether two limits cross. -/
def executionPrice (aggressor resting : Header) (crosses : Decimal → Decimal → Bool) :
    Option Decimal :=
  if aggressor.isMarket && resting.isMarket then none
  else if resting.isMarket then some aggressor.price
  else if aggressor.isMarket then some resting.price
  else if crosses aggressor.price resting.price then some resting.price
  else none

/-- The trade of the aggressor against the first resting order it can trade with, scanning
the resting orders in the order given. -/
def firstTrade (aggressor : Header) (crosses : Decimal → Decimal → Bool) :
    List MarketEvent → Option Trade
  | [] => none
  | order :: rest =>
    let resting := order.header
    if resting.remainingQty ≤ 0 then firstTrade aggressor crosses rest
    else match executionPrice aggressor resting crosses with
      | none => if resting.isMarket then firstTrade aggressor crosses rest else none
      | some price =>
        let qty := if resting.remainingQty < aggressor.remainingQty then resting.remainingQty
          else aggressor.remainingQty
        some (Trade.settle (aggressor.applyExecution qty price)
          ⟨qty, price, resting.clientOrderId, resting.clientId⟩)

/-- The aggressor's trade against the resting orders, if it has quantity left and one of them
can trade. -/
def check (aggressor : Header) (crosses : Decimal → Decimal → Bool) (resting : List MarketEvent) :
    Option Trade :=
  if aggressor.remainingQty ≤ 0 then none else firstTrade aggressor crosses resting

/-- A bid crosses an offer priced at or below it. -/
def bidCrosses (bid offer : Decimal) : Bool := offer.le bid

/-- An offer crosses a bid priced at or above it. -/
def offerCrosses (offer bid : Decimal) : Bool := offer.le bid

end PriceTime

namespace ExecutionStrategy

/-- The trade of a bid against the offers, best first. -/
def checkBid : ExecutionStrategy → Header → List MarketEvent → Option Trade
  | .priceTime, bid, offers => PriceTime.check bid PriceTime.bidCrosses offers

/-- The trade of an offer against the bids, best first. -/
def checkOffer : ExecutionStrategy → Header → List MarketEvent → Option Trade
  | .priceTime, offer, bids => PriceTime.check offer PriceTime.offerCrosses bids

end ExecutionStrategy

/-- The trade seen from the resting order: the same quantity and price booked against it, with
the aggressor as the other side. -/
def Trade.counterpart (resting : Header) (trade : Trade) : Trade :=
  let x := trade.execution
  Trade.settle (resting.applyExecution x.execQty x.execPrice)
    ⟨x.execQty, x.execPrice, trade.header.clientOrderId, trade.header.clientId⟩

end Bourse
