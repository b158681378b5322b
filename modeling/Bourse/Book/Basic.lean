import Bourse.Book.Side
import Bourse.Matching.PriceTime
import Bourse.Alert.Basic
import Bourse.Event.Text

/-!
# The order book

An order book serves one symbol. It holds the resting bids and offers, the tape of every trade
in the order it happened, and the subscribers that are told, synchronously and in the order
they subscribed, of every event the book publishes. A subscriber has a role `ρ` that tells
its owner what it is.

Offering an event to the book first passes `OrderBook.check`: the symbol must be the book's
(when both are named), and an order must have a positive quantity and be well formed. An order
whose key already rests on its side is a duplicate. `BookError.message` gives the texts.

While the book delivers an event, a subscriber may read the book and ask it to add or delete
events (`BookRequest`); those requests wait in a queue and run, in order, after the current
operation. A subscriber may also fail: an ordinary failure is recorded and delivery goes on,
while a failure that reports a broken invariant stops the book at once (`SubscriberPanic`).
-/

namespace Bourse

/-- A subscription to a book: its number, its name and what it is to its owner. -/
structure Subscription (ρ : Type) where
  /-- The number the book gave it. -/
  id : Nat
  /-- The name it reports failures under. -/
  name : String
  /-- What the subscriber is. -/
  role : ρ
  deriving Repr

/-- A change a subscriber asks the book for while an event is delivered. -/
inductive BookRequest where
  | add (event : MarketEvent)
  | delete (event : MarketEvent)
  deriving Repr

/-- How a subscriber failed while handling an event. -/
inductive SubscriberPanic where
  /-- An ordinary failure, with the text it reported; the book goes on. -/
  | recovered (text : String)
  /-- A failure reporting a broken invariant, with its message; the book stops. -/
  | invariant (message : String)
  deriving Repr

/-- What a subscriber did with an event: the requests it made, in order, and how it failed,
if it did. -/
structure Reaction where
  /-- The changes it asked for. -/
  requests : List BookRequest
  /-- Its failure, if any. -/
  panic : Option SubscriberPanic
  deriving Repr

/-- The reaction of a subscriber that only listens. -/
def Reaction.none : Reaction := ⟨[], Option.none⟩

/-- What a book reports while it works: its metrics, its log and its alerts, in order. -/
inductive BookNote where
  /-- An event was published. -/
  | published (kind : EventKind)
  /-- A trade or delete named an order the book does not hold. -/
  | lookupMiss (operation : String)
  /-- A subscriber failed. -/
  | subscriberFailed (name : String)
  /-- The number of resting orders on a side, after an operation. -/
  | restingOrders (side : String) (count : Nat)
  /-- The best prices after an operation. -/
  | bestPrices (bid offer : Decimal)
  /-- A trade went on the tape; it is logged. -/
  | traded (trade : Trade)
  /-- An operation finished holding the book. -/
  | held
  /-- A log record. -/
  | log (record : LogRecord)
  /-- An alert. -/
  | alert (alert : Alert)
  deriving Repr

/-- Why the book refused an event. -/
inductive BookError where
  /-- The event names another symbol. -/
  | wrongSymbol (symbol : String)
  /-- The event is not well formed. -/
  | invalid (error : EventError)
  /-- An order with the same key already rests on its side. -/
  | duplicate (key : OrderKey)
  deriving Repr

/-- The message of a refusal. -/
def BookError.message : BookError → String
  | .wrongSymbol symbol => "symbol not served by this book: " ++ symbol
  | .invalid error => error.message
  | .duplicate key => "duplicate open order: " ++ key.text

/-- The message of a broken invariant of the book, with its detail. -/
def invariantMessage (detail : String) : String := "order book invariant violated: " ++ detail

/-- The price reported for a side without limit orders. -/
def noPrice : Decimal := Decimal.ofInt (-1)

/-- The order book of one symbol, with subscribers of role `ρ`. -/
structure OrderBook (ρ : Type) where
  /-- The symbol served; empty to serve any. -/
  symbol : String
  /-- How orders are matched. -/
  strategy : ExecutionStrategy
  /-- The resting bids. -/
  bids : BookSide
  /-- The resting offers. -/
  offers : BookSide
  /-- Every trade, oldest first. -/
  tape : Array Trade
  /-- The subscribers, in the order they subscribed. -/
  subscriptions : List (Subscription ρ)
  /-- The number of subscriptions made so far. -/
  subscribed : Nat
  deriving Repr

namespace OrderBook

variable {ρ : Type}

/-- An empty book for a symbol. -/
def empty (symbol : String) (strategy : ExecutionStrategy) : OrderBook ρ :=
  ⟨symbol, strategy, BookSide.empty true, BookSide.empty false, #[], [], 0⟩

/-- The side orders of a side code rest on: bids for buying, offers for anything else. -/
def sideOf (book : OrderBook ρ) (side : Side) : BookSide :=
  if side.isBuy then book.bids else book.offers

/-- The side opposite to the one a side code rests on. -/
def oppositeOf (book : OrderBook ρ) (side : Side) : BookSide :=
  if side.isBuy then book.offers else book.bids

/-- The book with the side of a side code replaced. -/
def setSide (book : OrderBook ρ) (side : Side) (orders : BookSide) : OrderBook ρ :=
  if side.isBuy then { book with bids := orders } else { book with offers := orders }

/-- The book with the side opposite to a side code replaced. -/
def setOpposite (book : OrderBook ρ) (side : Side) (orders : BookSide) : OrderBook ρ :=
  if side.isBuy then { book with offers := orders } else { book with bids := orders }

/-- The best price of a side, `-1` when it has no limit order. -/
def bestOf (side : BookSide) : Decimal := side.bestLimit?.getD noPrice

/-- The highest bid, `-1` when there is none. -/
def bestBid (book : OrderBook ρ) : Decimal := bestOf book.bids

/-- The lowest offer, `-1` when there is none. -/
def bestOffer (book : OrderBook ρ) : Decimal := bestOf book.offers

/-- The resting order with a key on the side of a side code. -/
def lookup (book : OrderBook ρ) (side : Side) (key : OrderKey) : Option MarketEvent :=
  (book.sideOf side).find? key

/-- The tape from position `start` on; a negative start counts from the beginning. -/
def trades (book : OrderBook ρ) (start : Int) : List Trade :=
  book.tape.toList.drop start.toNat

/-- Whether the book takes an event: the symbols agree when both are named, and an order has a
positive quantity and is well formed. -/
def check (book : OrderBook ρ) (event : MarketEvent) : Except BookError Unit :=
  let h := event.header
  if book.symbol != "" && h.symbol != "" && h.symbol != book.symbol then
    .error (.wrongSymbol h.symbol)
  else if event.isOrder then
    if h.orderQty ≤ 0 then .error (.invalid (.nonPositiveOrderQty h.key h.orderQty))
    else match event.validate with
      | .ok () => .ok ()
      | .error e => .error (.invalid e)
  else .ok ()

/-- Adds a subscriber at the end of the delivery order; its number is the count of
subscriptions made so far. -/
def subscribe (book : OrderBook ρ) (name : String) (role : ρ) : OrderBook ρ × Nat :=
  let id := book.subscribed + 1
  ({ book with subscriptions := book.subscriptions ++ [⟨id, name, role⟩], subscribed := id }, id)

/-- Removes the subscriber with a number. -/
def unsubscribe (book : OrderBook ρ) (id : Nat) : OrderBook ρ :=
  { book with subscriptions := book.subscriptions.filter (·.id != id) }

end OrderBook

/-- The state of a book at one moment, as reported to readers. -/
structure Snapshot where
  /-- The symbol served. -/
  symbol : String
  /-- The highest bid, `-1` when none. -/
  bestBid : Decimal
  /-- The lowest offer, `-1` when none. -/
  bestOffer : Decimal
  /-- The resting bids in priority order. -/
  bids : List MarketEvent
  /-- The resting offers in priority order. -/
  offers : List MarketEvent
  /-- The open quantity of the bids. -/
  bidVolume : Int64
  /-- The open quantity of the offers. -/
  offerVolume : Int64
  /-- The number of trades on the tape. -/
  tradeCount : Nat
  /-- When the snapshot was taken. -/
  timestamp : Instant
  deriving Repr

/-- The offer less the bid, `-1` when either side has no price. -/
def Snapshot.spread (snapshot : Snapshot) : Decimal :=
  if snapshot.bestBid.equals noPrice || snapshot.bestOffer.equals noPrice then noPrice
  else snapshot.bestOffer - snapshot.bestBid

/-- The snapshot of a book taken at `now`. -/
def OrderBook.snapshot {ρ : Type} (book : OrderBook ρ) (now : Instant) : Snapshot :=
  { symbol := book.symbol, bestBid := book.bestBid, bestOffer := book.bestOffer,
    bids := book.bids.orders, offers := book.offers.orders, bidVolume := book.bids.volume,
    offerVolume := book.offers.volume, tradeCount := book.tape.size, timestamp := now }

end Bourse
