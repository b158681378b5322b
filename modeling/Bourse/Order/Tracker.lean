import Bourse.Order.Status

/-!
# Order tracking

A tracker follows one client's orders as a session sees them. An accepted order gets the
exchange's order id and becomes new; the book's events then move it through its statuses, and
an order that reaches a final status leaves the open orders, its final status kept so that a
late cancel can be told apart from a cancel of an order never seen. A replace hands the open
order's exchange id, executed quantity and average price on to the new order.

Open orders are known by their client order id.
-/

namespace Bourse

/-- An order as a session tracks it. -/
structure TrackedOrder where
  /-- The exchange's id, kept through replaces. -/
  orderId : String
  clientOrderId : String
  clientId : String
  symbol : String
  side : Side
  /-- Market or limit. -/
  orderType : OrderType
  /-- The limit price. -/
  price : Decimal
  /-- The quantity ordered. -/
  quantity : Int64
  /-- The quantity executed. -/
  cumQty : Int64
  /-- The quantity still open. -/
  leavesQty : Int64
  /-- The average execution price. -/
  avgPrice : Decimal
  status : OrderStatus
  /-- When the order last changed. -/
  updatedAt : Instant
  deriving Repr, Inhabited

namespace TrackedOrder

/-- The order with nothing in it, reported with errors. -/
def empty : TrackedOrder :=
  ⟨"", "", "", "", ⟨0⟩, ⟨0⟩, Decimal.zero, 0, 0, 0, Decimal.zero, ⟨0⟩, Instant.zero⟩

/-- The order an event describes, not yet given an id or a status. -/
def ofEvent (event : MarketEvent) : TrackedOrder :=
  let h := event.header
  ⟨"", h.clientOrderId, h.clientId, h.symbol, h.side, h.orderType, h.price, h.orderQty, h.cumQty,
    h.remainingQty, h.avgPrice, ⟨0⟩, Instant.zero⟩

/-- The key of the order in the book. -/
def key (order : TrackedOrder) : OrderKey := ⟨order.clientId, order.clientOrderId⟩

end TrackedOrder

/-- Why the tracker refused a request. -/
inductive TrackerError where
  /-- An open order already has the client order id. -/
  | duplicate (clientOrderId : String)
  /-- No open order has the client order id. -/
  | unknown (clientOrderId : String)
  /-- The order cannot move to the status asked for. -/
  | illegal (clientOrderId : String) (move : OrderStatus.IllegalMove)
  deriving Repr

/-- The message of a refusal. -/
def TrackerError.message : TrackerError → String
  | .duplicate id => "duplicate client order id: " ++ id
  | .unknown id => "unknown order: " ++ id
  | .illegal id move => "order " ++ id ++ ": " ++ move.message

/-- The orders of one client: the open ones by client order id, and the final status of those
that are done. -/
structure Tracker where
  /-- The open orders. -/
  «open» : List (String × TrackedOrder)
  /-- The final status of orders that are done. -/
  done : List (String × OrderStatus)
  deriving Repr, Inhabited

namespace Tracker

/-- A tracker with no orders. -/
def empty : Tracker := ⟨[], []⟩

/-- The entry of a key in an association list. -/
def lookup {α : Type} (entries : List (String × α)) (key : String) : Option α :=
  (entries.find? (·.1 == key)).map (·.2)

/-- The association list with the entry of a key set, in place when it is there. -/
def assign {α : Type} (entries : List (String × α)) (key : String) (value : α) :
    List (String × α) :=
  if entries.any (·.1 == key) then entries.map fun (k, v) => if k == key then (k, value) else (k, v)
  else entries ++ [(key, value)]

/-- The association list without the entry of a key. -/
def unassign {α : Type} (entries : List (String × α)) (key : String) : List (String × α) :=
  entries.filter (·.1 != key)

/-- The open order with a client order id. -/
def get? (tracker : Tracker) (clientOrderId : String) : Option TrackedOrder :=
  lookup tracker.open clientOrderId

/-- The number of open orders. -/
def openCount (tracker : Tracker) : Nat := tracker.open.length

/-- Moves an order to a status at `now`, if the move is allowed. -/
def move (order : TrackedOrder) (target : OrderStatus) (now : Instant) :
    Except TrackerError TrackedOrder :=
  match OrderStatus.checkMove order.status target with
  | .ok () => .ok { order with status := target, updatedAt := now }
  | .error move => .error (.illegal order.clientOrderId move)

/-- Accepts a new order under the exchange id `orderId`: it becomes new. -/
def accept (tracker : Tracker) (orderId : String) (event : MarketEvent) (now : Instant) :
    Except TrackerError (Tracker × TrackedOrder) := do
  let id := event.header.clientOrderId
  if (tracker.get? id).isSome then throw (.duplicate id)
  let order ← move { TrackedOrder.ofEvent event with orderId, status := .pending } .new now
  return (⟨assign tracker.open id order, unassign tracker.done id⟩, order)

/-- Replaces the open order `original` by the order `next` describes: the original is
replaced, and the new order, new, keeps its exchange id, executed quantity and average price. -/
def replace (tracker : Tracker) (original : String) (next : MarketEvent) (now : Instant) :
    Except TrackerError (Tracker × TrackedOrder) := do
  let some orig := tracker.get? original | throw (.unknown original)
  let id := next.header.clientOrderId
  if (tracker.get? id).isSome && id != original then throw (.duplicate id)
  let _ ← move orig .replaced now
  let fresh := TrackedOrder.ofEvent next
  let order := { fresh with
    orderId := orig.orderId, cumQty := orig.cumQty, avgPrice := orig.avgPrice,
    leavesQty := fresh.quantity - orig.cumQty, status := .new, updatedAt := now }
  let opened := unassign tracker.open original
  let done := assign tracker.done original .replaced
  return (⟨assign opened id order, unassign done id⟩, order)

/-- Forgets an open order, when the book refused it. -/
def restore (tracker : Tracker) (clientOrderId : String) : Tracker :=
  { tracker with «open» := unassign tracker.open clientOrderId }

/-- Applies the book's event to the order it names, moving it to `target`; an order reaching a
final status is done, with nothing left open. On a refused move the order is given back as it
was. -/
def apply (tracker : Tracker) (event : MarketEvent) (target : OrderStatus) (now : Instant) :
    Tracker × Except (TrackerError × TrackedOrder) TrackedOrder :=
  let h := event.header
  match tracker.get? h.clientOrderId with
  | none => (tracker, .error (.unknown h.clientOrderId, TrackedOrder.empty))
  | some order =>
    match move order target now with
    | .error e => (tracker, .error (e, order))
    | .ok moved =>
      let moved := { moved with
        quantity := h.orderQty, cumQty := h.cumQty, leavesQty := h.remainingQty,
        avgPrice := h.avgPrice }
      if target.isFinal then
        let moved := { moved with leavesQty := 0 }
        (⟨unassign tracker.open h.clientOrderId, assign tracker.done h.clientOrderId target⟩,
          .ok moved)
      else (⟨assign tracker.open h.clientOrderId moved, tracker.done⟩, .ok moved)

/-- Whether an order can be cancelled now, and whether the tracker knows it at all. -/
def canCancel (tracker : Tracker) (clientOrderId : String) : Bool × Bool :=
  match tracker.get? clientOrderId with
  | some order => (order.status.canCancel, true)
  | none =>
    match lookup tracker.done clientOrderId with
    | some status => (status.canCancel, true)
    | none => (false, false)

end Tracker

end Bourse
