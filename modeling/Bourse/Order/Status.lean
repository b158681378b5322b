import Bourse.Event.Basic

/-!
# Order status

The status of an order as a session sees it, written as a one-byte code: pending (`A`), new
(`0`), partially filled (`1`), filled (`2`), cancelled (`4`), replaced (`5`) and rejected (`8`).
Any other byte is an unknown status.

An order moves from pending to new or rejected; from new or partially filled to partially
filled, filled, cancelled or replaced. Filled, cancelled, replaced and rejected are final: no
move leaves them. A status that is not final may always stay as it is. Only new and partially
filled orders can be cancelled.
-/

namespace Bourse

/-- The status of an order, as its one-byte code. -/
structure OrderStatus where
  /-- The code byte. -/
  code : UInt8
  deriving DecidableEq, Repr, Inhabited

namespace OrderStatus

/-- Accepted at the gateway, not yet in the book. -/
def pending : OrderStatus := ⟨65⟩
/-- In the book, nothing executed. -/
def new : OrderStatus := ⟨48⟩
/-- In the book, partly executed. -/
def partiallyFilled : OrderStatus := ⟨49⟩
/-- Fully executed. -/
def filled : OrderStatus := ⟨50⟩
/-- Taken off the book. -/
def canceled : OrderStatus := ⟨52⟩
/-- Replaced by another order. -/
def replaced : OrderStatus := ⟨53⟩
/-- Refused. -/
def rejected : OrderStatus := ⟨56⟩

instance : BEq OrderStatus := ⟨fun a b => a.code == b.code⟩

/-- The name of the status. -/
def name (status : OrderStatus) : String :=
  match status.code with
  | 65 => "PENDING"
  | 48 => "NEW"
  | 49 => "PARTIALLY_FILLED"
  | 50 => "FILLED"
  | 52 => "CANCELED"
  | 53 => "REPLACED"
  | 56 => "REJECTED"
  | _ => "UNKNOWN"

/-- Whether no move leaves the status. -/
def isFinal (status : OrderStatus) : Bool :=
  status == filled || status == canceled || status == replaced || status == rejected

/-- Whether an order with the status can be cancelled. -/
def canCancel (status : OrderStatus) : Bool := status == new || status == partiallyFilled

/-- The moves from one status to another. -/
def moves : List (OrderStatus × OrderStatus) :=
  [(pending, new), (pending, rejected),
    (new, partiallyFilled), (new, filled), (new, canceled), (new, replaced),
    (partiallyFilled, partiallyFilled), (partiallyFilled, filled), (partiallyFilled, canceled),
    (partiallyFilled, replaced)]

/-- Why a move is refused. -/
structure IllegalMove where
  /-- The status the order had. -/
  source : OrderStatus
  /-- The status asked for. -/
  target : OrderStatus
  deriving Repr

/-- The message of a refused move. -/
def IllegalMove.message (move : IllegalMove) : String :=
  "illegal state transition: " ++ move.source.name ++ " -> " ++ move.target.name

/-- Checks a move: a status that is not final may stay, and otherwise the move must be one of
`moves`. -/
def checkMove (source target : OrderStatus) : Except IllegalMove Unit :=
  if source == target && !source.isFinal then .ok ()
  else if moves.any (fun (a, b) => a == source && b == target) then .ok ()
  else .error ⟨source, target⟩

/-- The status the book's event implies for the order it names: a fill fills; a partial fill
fills when nothing remains and partly fills otherwise; a delete cancels; anything else is new. -/
def ofEvent (event : MarketEvent) : OrderStatus :=
  match event with
  | .fill .. => filled
  | .partialFill h _ => if h.remainingQty == 0 then filled else partiallyFilled
  | _ => if event.header.action == Action.delete then canceled else new

end OrderStatus

end Bourse
