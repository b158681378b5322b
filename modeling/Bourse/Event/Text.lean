import Bourse.Event.Validate
import Bourse.Log.Field

/-!
# Events in writing

`MarketEvent.summary` is the one-line description used in trade logs:
`BID c/a BUY 10@100.5 rem=10 cum=0`, with ` exec=Q@P` added for trades. `MarketEvent.fields`
lists the event as log fields.
-/

namespace Bourse

namespace MarketEvent

/-- The one-line description: kind, key, side, `qty@price`, remaining and cumulative quantity,
and for trades the execution. -/
def summary (event : MarketEvent) : String :=
  let h := event.header
  let base := event.kind.name ++ " " ++ h.key.text ++ " " ++ h.side.name ++ " " ++
    int64Text h.orderQty ++ "@" ++ h.price.toText ++ " rem=" ++ int64Text h.remainingQty ++
    " cum=" ++ int64Text h.cumQty
  match event.execution? with
  | some x => base ++ " exec=" ++ int64Text x.execQty ++ "@" ++ x.execPrice.toText
  | none => base

/-- The event as log fields: kind, client and order ids, symbol, side, order type, price,
quantities and action, and for trades the executed quantity and price and the contra order. -/
def fields (event : MarketEvent) : List Field :=
  let h := event.header
  let base : List Field :=
    [("kind", .text event.kind.name), ("client_id", .text h.clientId),
      ("cl_ord_id", .text h.clientOrderId), ("symbol", .text h.symbol),
      ("side", .text h.side.name), ("ord_type", .text h.orderType.name),
      ("price", .text h.price.toText), ("order_qty", .int h.orderQty.toInt),
      ("remaining_qty", .int h.remainingQty.toInt), ("cum_qty", .int h.cumQty.toInt),
      ("action", .text h.action.name)]
  match event.execution? with
  | some x => base ++ [("exec_qty", .int x.execQty.toInt), ("exec_price", .text x.execPrice.toText),
      ("contra_id", .text x.contraOrderId)]
  | none => base

end MarketEvent

end Bourse
