import Bourse.Event.Validate
import Bourse.Event.Trade
import Bourse.Log.Field

/-!
# Client portfolios

A portfolio follows one client's business through the events a book publishes: the client's
open bids and offers by order id, and every trade of theirs in order. From each event of the
client it learns one of three things, its `ClientEvent`:

- a new or changed order is a **new position**, and a deleted one that it knew is a
  **cancel**;
- a fill is a **filled** position and closes the order;
- a partial fill is a **filled** position too: the open order takes the trade's quantities and
  closes when nothing remains; an order it did not know is opened from the trade.

The net position is what the client bought less what they sold.
-/

namespace Bourse

/-- What a client learns about an order. -/
inductive ClientEventType where
  | newPosition
  | cancel
  | filled
  deriving DecidableEq, Repr, Inhabited

namespace ClientEventType

/-- The number of the type, from 1. -/
def code : ClientEventType → Int
  | .newPosition => 1
  | .cancel => 2
  | .filled => 3

/-- The type with a number, if any. -/
def ofCode? : Int → Option ClientEventType
  | 1 => some .newPosition
  | 2 => some .cancel
  | 3 => some .filled
  | _ => none

/-- The name: `NEW_POSITION`, `CANCEL`, `FILLED`. -/
def name : ClientEventType → String
  | .newPosition => "NEW_POSITION"
  | .cancel => "CANCEL"
  | .filled => "FILLED"

/-- The name of a type number: `UNKNOWN` when no type has it. -/
def nameOfCode (code : Int) : String := ((ofCode? code).map name).getD "UNKNOWN"

end ClientEventType

/-- What a client learns, with the event it learned it from. -/
structure ClientEvent where
  /-- What happened. -/
  type : ClientEventType
  /-- The book's event. -/
  event : MarketEvent
  deriving Repr

/-- The book's answer when a portfolio is asked to act on an order it does not hold open. -/
def unknownOpenOrder : String := "unknown open order"

/-- Open orders by the client's order id. -/
abbrev OpenOrders := List (String × MarketEvent)

/-- The order with an id. -/
def OpenOrders.get? (orders : OpenOrders) (id : String) : Option MarketEvent :=
  (orders.find? (·.1 == id)).map (·.2)

/-- The orders with the order of an id set. -/
def OpenOrders.put (orders : OpenOrders) (id : String) (order : MarketEvent) : OpenOrders :=
  if orders.any (·.1 == id) then orders.map fun entry => if entry.1 == id then (id, order) else entry
  else orders ++ [(id, order)]

/-- The orders without the order of an id. -/
def OpenOrders.erase (orders : OpenOrders) (id : String) : OpenOrders :=
  orders.filter (·.1 != id)

/-- One client's open orders and trades, as the book has shown them. -/
structure Portfolio where
  clientId : String
  /-- The open bids. -/
  bids : OpenOrders
  /-- The open offers. -/
  offers : OpenOrders
  /-- The client's trades, oldest first. -/
  fills : Array Trade
  deriving Repr, Inhabited

namespace Portfolio

/-- The portfolio of a client that has done nothing yet. -/
def new (clientId : String) : Portfolio := ⟨clientId, [], [], #[]⟩

/-- The open orders of the side of a side code: bids for buying, offers otherwise. -/
def sideOf (portfolio : Portfolio) (side : Side) : OpenOrders :=
  if side.isBuy then portfolio.bids else portfolio.offers

/-- The portfolio with the open orders of a side replaced. -/
def setSide (portfolio : Portfolio) (side : Side) (orders : OpenOrders) : Portfolio :=
  if side.isBuy then { portfolio with bids := orders } else { portfolio with offers := orders }

/-- The open order with an id on a side. -/
def open? (portfolio : Portfolio) (side : Side) (id : String) : Option MarketEvent :=
  (portfolio.sideOf side).get? id

/-- The client stamped on an event that names none. -/
def stamp (portfolio : Portfolio) (event : MarketEvent) : MarketEvent :=
  event.mapHeader fun h => if h.clientId == "" then { h with clientId := portfolio.clientId } else h

/-- What the client bought less what they sold. -/
def netPosition (portfolio : Portfolio) : Int64 :=
  portfolio.fills.foldl (fun net t =>
    if t.header.side.isBuy then net + t.execution.execQty else net - t.execution.execQty) 0

/-- Learns from an event of the book: the new portfolio, what the client learned (nothing for
another client's event or the delete of an unknown order) and the log records made. -/
def observe (portfolio : Portfolio) (event : MarketEvent) :
    Portfolio × Option ClientEvent × List LogRecord :=
  let h := event.header
  if h.clientId != portfolio.clientId then (portfolio, none, [])
  else
    let orders := portfolio.sideOf h.side
    let id := h.clientOrderId
    match event with
    | .bid _ | .offer _ =>
      if h.action == Action.delete then
        match orders.get? id with
        | none => (portfolio, none, [])
        | some _ => (portfolio.setSide h.side (orders.erase id), some ⟨.cancel, event⟩, [])
      else (portfolio.setSide h.side (orders.put id event), some ⟨.newPosition, event⟩, [])
    | .fill _ x =>
      let withFill := { portfolio with fills := portfolio.fills.push ⟨true, h, x⟩ }
      (withFill.setSide h.side (orders.erase id), some ⟨.filled, event⟩, [])
    | .partialFill _ x =>
      let withFill := { portfolio with fills := portfolio.fills.push ⟨false, h, x⟩ }
      match orders.get? id with
      | none =>
        let created := debugRecord
        match MarketEvent.newOrder h with
        | .ok order => (withFill.setSide h.side (orders.put id order), some ⟨.filled, event⟩, [created])
        | .error e =>
          (withFill, some ⟨.filled, event⟩,
            [created, ⟨.warn, "cannot rebuild order from partial fill", [("error", .text e.message)]⟩])
      | some rest =>
        let updated := rest.mapHeader fun rh =>
          { rh with orderQty := h.orderQty, cumQty := h.cumQty, remainingQty := h.remainingQty,
                    avgPrice := h.avgPrice }
        let orders := if h.remainingQty ≤ 0 then orders.erase id else orders.put id updated
        (withFill.setSide h.side orders, some ⟨.filled, event⟩, [])
where
  /-- The note that an order is opened from a partial fill. -/
  debugRecord : LogRecord :=
    ⟨.debug, "partial fill for untracked order, creating it",
      [("client_id", .text portfolio.clientId), ("cl_ord_id", .text event.header.clientOrderId)]⟩

end Portfolio

end Bourse
