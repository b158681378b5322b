import Bourse.Event.Basic

/-!
# Trades

A trade is an execution against an order together with the order as it stands after the
execution. A trade that leaves nothing of the order is a fill and removes the order
(`Action.delete`); one that leaves some is a partial fill and changes it (`Action.change`).
-/

namespace Bourse

/-- An execution against an order, with the order after it. -/
structure Trade where
  /-- Whether the execution completed the order. -/
  complete : Bool
  /-- The order after the execution. -/
  header : Header
  /-- What was executed and against whom. -/
  execution : Execution
  deriving Repr, Inhabited

namespace Trade

/-- The trade of an order after an execution: a fill when nothing remains, with the order
deleted, and otherwise a partial fill, with the order changed. -/
def settle (header : Header) (execution : Execution) : Trade :=
  if header.remainingQty == 0 then
    ⟨true, { header with action := Action.delete }, execution⟩
  else
    ⟨false, { header with action := Action.change }, execution⟩

/-- The trade as a market event. -/
def toEvent (trade : Trade) : MarketEvent :=
  if trade.complete then .fill trade.header trade.execution
  else .partialFill trade.header trade.execution

/-- The trade a market event reports, if it is a trade. -/
def ofEvent? : MarketEvent → Option Trade
  | .fill h x => some ⟨true, h, x⟩
  | .partialFill h x => some ⟨false, h, x⟩
  | _ => none

/-- The same trade with another header. -/
def withHeader (trade : Trade) (header : Header) : Trade := { trade with header }

@[simp] theorem ofEvent_toEvent (trade : Trade) : ofEvent? trade.toEvent = some trade := by
  cases trade with
  | mk complete header execution => cases complete <;> rfl

end Trade

end Bourse
