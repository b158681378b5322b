import Bourse.Decimal.Text
import Bourse.Time.Instant

/-!
# Market events

Everything that moves through the matching core is a market event: a resting order to buy
(`bid`) or sell (`offer`), or a trade against one, which either fills the order (`fill`) or
leaves some of it open (`partialFill`). Every event carries the same order header; trades also
carry what was executed and against whom.

Order attributes use the single-character codes of the FIX protocol (side `1` buy, `2` sell,
`5` sell short; order type `1` market, `2` limit), kept as the byte that was received so that
an unknown code is still an order attribute and can be reported. Quantities are signed 64-bit
integers, as they arrive in messages.

`Header.applyExecution` books an execution against an order: the cumulative quantity grows, the
remaining quantity is what is left of the order quantity, and the average price becomes the
quantity-weighted mean of the old average and the execution price.
-/

namespace Bourse

/-- The side of an order, as its FIX code. -/
structure Side where
  /-- The FIX byte: `1` buy, `2` sell, `5` sell short. -/
  code : UInt8
  deriving DecidableEq, Repr, Inhabited

namespace Side

/-- Buying. -/
def buy : Side := ⟨49⟩
/-- Selling what one holds. -/
def sell : Side := ⟨50⟩
/-- Selling what one has borrowed. -/
def sellShort : Side := ⟨53⟩

/-- Whether the side buys. -/
def isBuy (side : Side) : Bool := side == buy

/-- Whether the side sells, short or not. -/
def isSell (side : Side) : Bool := side == sell || side == sellShort

/-- The name of the side: `BUY`, `SELL`, `SELL_SHORT`, or `N/A` for another code. -/
def name (side : Side) : String :=
  if side == buy then "BUY"
  else if side == sell then "SELL"
  else if side == sellShort then "SELL_SHORT"
  else "N/A"

end Side

/-- The type of an order, as its FIX code. -/
structure OrderType where
  /-- The FIX byte: `1` market, `2` limit. -/
  code : UInt8
  deriving DecidableEq, Repr, Inhabited

namespace OrderType

/-- An order that takes any price. -/
def market : OrderType := ⟨49⟩
/-- An order with a price limit. -/
def limit : OrderType := ⟨50⟩

/-- The name of the type: `MARKET`, `LIMIT`, or `N/A` for another code. -/
def name (kind : OrderType) : String :=
  if kind == market then "MARKET" else if kind == limit then "LIMIT" else "N/A"

end OrderType

/-- How long an order stays, as its FIX code. -/
structure TimeInForce where
  /-- The FIX byte: `0` day, `1` good till cancel, `3` immediate or cancel, `4` fill or kill. -/
  code : UInt8
  deriving DecidableEq, Repr, Inhabited

namespace TimeInForce

/-- Good until cancelled: the only one the gateway accepts. -/
def goodTillCancel : TimeInForce := ⟨49⟩

/-- The name: `DAY`, `GTC`, `IOC`, `FOK`, or `N/A` for another code. -/
def name (tif : TimeInForce) : String :=
  match tif.code with
  | 48 => "DAY"
  | 49 => "GTC"
  | 51 => "IOC"
  | 52 => "FOK"
  | _ => "N/A"

end TimeInForce

/-- What an event does to the book's picture of an order: numbered like the FIX market-data
update actions, 0 new, 1 change, 2 delete. -/
structure Action where
  /-- The number of the action. -/
  code : Int
  deriving DecidableEq, Repr, Inhabited

namespace Action

/-- The order is new. -/
def add : Action := ⟨0⟩
/-- The order changed. -/
def change : Action := ⟨1⟩
/-- The order is gone. -/
def delete : Action := ⟨2⟩

/-- The name: `ADD`, `CHANGE`, `DELETE`, or `UNKNOWN`. -/
def name (action : Action) : String :=
  match action.code with
  | 0 => "ADD"
  | 1 => "CHANGE"
  | 2 => "DELETE"
  | _ => "UNKNOWN"

end Action

/-- The four kinds of market event. -/
inductive EventKind where
  | bid
  | offer
  | fill
  | partialFill
  deriving DecidableEq, Repr, Inhabited

namespace EventKind

/-- The number of the kind, from 1. -/
def code : EventKind → Int
  | .bid => 1
  | .offer => 2
  | .fill => 3
  | .partialFill => 4

/-- The name: `BID`, `OFFER`, `FILL`, `PARTIAL_FILL`. -/
def name : EventKind → String
  | .bid => "BID"
  | .offer => "OFFER"
  | .fill => "FILL"
  | .partialFill => "PARTIAL_FILL"

/-- The kind with a number, if there is one. -/
def ofCode? : Int → Option EventKind
  | 1 => some .bid
  | 2 => some .offer
  | 3 => some .fill
  | 4 => some .partialFill
  | _ => none

/-- The name of a kind number: `UNKNOWN` when no kind has it. -/
def nameOfCode (code : Int) : String := ((ofCode? code).map name).getD "UNKNOWN"

end EventKind

/-- Names an order: the client and the client's order id. An order id is unique only among
one client's open orders. -/
structure OrderKey where
  client : String
  /-- The client's id of the order. -/
  orderId : String
  deriving DecidableEq, Repr, Inhabited

/-- The key written as `client/order`. -/
def OrderKey.text (key : OrderKey) : String := key.client ++ "/" ++ key.orderId

/-- The fields every market event carries. -/
structure Header where
  clientOrderId : String
  clientId : String
  /-- The account the order is booked to. -/
  account : String
  /-- The instrument. -/
  symbol : String
  /-- Buy or sell. -/
  side : Side
  /-- Market or limit. -/
  orderType : OrderType
  /-- The limit price; zero for market orders. -/
  price : Decimal
  /-- The quantity ordered. -/
  orderQty : Int64
  /-- The quantity still open. -/
  remainingQty : Int64
  /-- The quantity executed so far. -/
  cumQty : Int64
  /-- The quantity-weighted average execution price. -/
  avgPrice : Decimal
  /-- When the event happened; zero when not yet stamped. -/
  transactTime : Instant
  /-- What the event does to the order. -/
  action : Action
  deriving Repr, Inhabited

namespace Header

/-- The header of nothing: all text empty, all numbers zero, a limit order. -/
def empty : Header :=
  { clientOrderId := "", clientId := "", account := "", symbol := "", side := ⟨0⟩,
    orderType := OrderType.limit, price := Decimal.zero, orderQty := 0, remainingQty := 0,
    cumQty := 0, avgPrice := Decimal.zero, transactTime := Instant.zero, action := Action.add }

/-- The key of the order. -/
def key (header : Header) : OrderKey := ⟨header.clientId, header.clientOrderId⟩

/-- Whether the order takes any price. -/
def isMarket (header : Header) : Bool := header.orderType == OrderType.market

/-- Books an execution of `qty` at `price`: the cumulative quantity grows by `qty`, the
remaining quantity becomes the order quantity less the cumulative one, and, when the new
cumulative quantity is positive, the average price becomes
`(avg · cum + price · qty) / (cum + qty)`. -/
def applyExecution (header : Header) (qty : Int64) (price : Decimal) : Header :=
  let total := header.cumQty + qty
  let avgPrice :=
    if total > 0 then
      ((header.avgPrice * Decimal.ofInt64 header.cumQty) + (price * Decimal.ofInt64 qty)).div
        (Decimal.ofInt64 total)
    else header.avgPrice
  { header with avgPrice, cumQty := total, remainingQty := header.orderQty - total }

end Header

/-- What a trade executed and against whom. -/
structure Execution where
  /-- The quantity executed. -/
  execQty : Int64
  /-- The price it executed at. -/
  execPrice : Decimal
  /-- The client's id of the order on the other side. -/
  contraOrderId : String
  /-- The client on the other side. -/
  contraClientId : String
  deriving Repr, Inhabited

/-- The execution of nothing. -/
def Execution.empty : Execution := ⟨0, Decimal.zero, "", ""⟩

/-- An event of the matching core. -/
inductive MarketEvent where
  /-- An order to buy. -/
  | bid (header : Header)
  /-- An order to sell. -/
  | offer (header : Header)
  /-- A trade that completes an order. -/
  | fill (header : Header) (execution : Execution)
  /-- A trade that leaves part of an order open. -/
  | partialFill (header : Header) (execution : Execution)
  deriving Repr, Inhabited

namespace MarketEvent

/-- The header of the event. -/
def header : MarketEvent → Header
  | .bid h | .offer h | .fill h _ | .partialFill h _ => h

/-- The same event with another header. -/
def withHeader (event : MarketEvent) (header : Header) : MarketEvent :=
  match event with
  | .bid _ => .bid header
  | .offer _ => .offer header
  | .fill _ x => .fill header x
  | .partialFill _ x => .partialFill header x

/-- The event with its header changed by `change`. -/
def mapHeader (event : MarketEvent) (change : Header → Header) : MarketEvent :=
  event.withHeader (change event.header)

/-- The kind of the event. -/
def kind : MarketEvent → EventKind
  | .bid _ => .bid
  | .offer _ => .offer
  | .fill _ _ => .fill
  | .partialFill _ _ => .partialFill

/-- The execution of a trade; `none` for an order. -/
def execution? : MarketEvent → Option Execution
  | .fill _ x | .partialFill _ x => some x
  | _ => none

/-- Whether the event is an order rather than a trade. -/
def isOrder : MarketEvent → Bool
  | .bid _ | .offer _ => true
  | _ => false

/-- The key of the order the event is about. -/
def key (event : MarketEvent) : OrderKey := event.header.key

/-- A buy order: the side is set to buy and the remaining quantity to what is not yet
executed. -/
def newBid (header : Header) : MarketEvent :=
  .bid { header with side := Side.buy, remainingQty := header.orderQty - header.cumQty }

/-- A sell order: a short sale stays short, any other side becomes a plain sale; the remaining
quantity is what is not yet executed. -/
def newOffer (header : Header) : MarketEvent :=
  .offer { header with side := if header.side == Side.sellShort then Side.sellShort else Side.sell,
                       remainingQty := header.orderQty - header.cumQty }

/-- A trade that completes the order: nothing remains. -/
def newFill (header : Header) (execution : Execution) : MarketEvent :=
  .fill { header with remainingQty := 0 } execution

/-- A trade that leaves part of the order open, as given. -/
def newPartialFill (header : Header) (execution : Execution) : MarketEvent :=
  .partialFill header execution

end MarketEvent

end Bourse
