import Bourse.Event.Trade

/-!
# One side of an order book

A side holds the resting orders of one direction in priority order: market orders first, in
arrival order, then limit orders from the best price (highest bid, lowest offer) to the worst,
in arrival order among equal prices. `BookSide.insert` keeps that order by placing a new order
before the first order it has priority over.

Beside the list a side keeps an index from each key to the order resting under it: `find?` and
`remove?` read the index, and every change of the side changes the list and the index together.
The index is a function here, so that a side can be evaluated; that it always agrees with the
list is a theorem (`BookSide.WellFormed.index_eq_some_iff`).
-/

namespace Bourse

/-- The resting orders of one direction, in priority order, indexed by key. -/
structure BookSide where
  /-- Whether these are bids. -/
  buying : Bool
  /-- The orders, best first. -/
  orders : List MarketEvent
  /-- The order resting under each key. -/
  index : OrderKey → Option MarketEvent

namespace BookSide

/-- A side with no orders. -/
def empty (buying : Bool) : BookSide := ⟨buying, [], fun _ => none⟩

instance : Inhabited BookSide := ⟨empty false⟩

/-- A side is shown by its orders; what the index holds follows from them. -/
instance : Repr BookSide where
  reprPrec side _ := Std.Format.text "BookSide " ++ repr side.buying ++ " " ++ repr side.orders

/-- Whether price `a` is worse than price `b` on this side: lower for bids, higher for offers. -/
def worse (side : BookSide) (a b : Decimal) : Bool := if side.buying then a.lt b else b.lt a

/-- Whether a new order goes before a resting one: a market order goes before the first limit
order, a limit order before the first limit order with a worse price. -/
def goesBefore (side : BookSide) (incoming resting : Header) : Bool :=
  if incoming.isMarket then !resting.isMarket
  else !resting.isMarket && side.worse resting.price incoming.price

/-- The list with `order` placed before the first element that `before` accepts. -/
def insertBefore (before : MarketEvent → Bool) (order : MarketEvent) :
    List MarketEvent → List MarketEvent
  | [] => [order]
  | first :: rest =>
    if before first then order :: first :: rest else first :: insertBefore before order rest

/-- The side with a new order in its place and under its key. -/
def insert (side : BookSide) (order : MarketEvent) : BookSide :=
  let before (resting : MarketEvent) : Bool := side.goesBefore order.header resting.header
  { side with
    orders := insertBefore before order side.orders
    index := fun key => if key == order.key then some order else side.index key }

/-- The order with a key, if it rests here, as the index holds it. -/
def find? (side : BookSide) (key : OrderKey) : Option MarketEvent := side.index key

/-- Whether an order with the key rests here. -/
def contains (side : BookSide) (key : OrderKey) : Bool := (side.find? key).isSome

/-- The list without the first order with the key. -/
def eraseKey (key : OrderKey) : List MarketEvent → List MarketEvent
  | [] => []
  | first :: rest => if first.key == key then rest else first :: eraseKey key rest

/-- The side without the order with a key, in the list and in the index. -/
def erase (side : BookSide) (key : OrderKey) : BookSide :=
  { side with
    orders := eraseKey key side.orders
    index := fun other => if other == key then none else side.index other }

/-- Takes the order the index holds under a key off the side: the order and the side without
it; nothing when the index holds none. -/
def remove? (side : BookSide) (key : OrderKey) : Option (MarketEvent × BookSide) :=
  (side.find? key).map fun order => (order, side.erase key)

/-- The list with the header of the first order with the key changed. -/
def updateKey (key : OrderKey) (change : Header → Header) : List MarketEvent → List MarketEvent
  | [] => []
  | first :: rest =>
    if first.key == key then first.mapHeader change :: rest
    else first :: updateKey key change rest

/-- The side with the header of the order with the key changed in place, so that the list and
the index hold the changed order. -/
def update (side : BookSide) (key : OrderKey) (change : Header → Header) : BookSide :=
  { side with
    orders := updateKey key change side.orders
    index := fun other =>
      if other == key then (side.index other).map (·.mapHeader change) else side.index other }

/-- The price of the best limit order, if there is one; market orders have no price. -/
def bestLimit? (side : BookSide) : Option Decimal :=
  (side.orders.find? fun order => !order.header.isMarket).map (·.header.price)

/-- The quantity still open over all orders. -/
def volume (side : BookSide) : Int64 :=
  side.orders.foldl (fun total order => total + order.header.remainingQty) 0

/-- The number of resting orders. -/
def size (side : BookSide) : Nat := side.orders.length

end BookSide

end Bourse
