import Bourse.Order.Tracker
import Bourse.Order.Constraints
import Bourse.Book.DeskView

/-!
# Orders as JSON

The JSON views of tracked orders and of the errors of the order layer, each error with the
kind it belongs to.
-/

namespace Bourse

/-- A tracked order as JSON. -/
def TrackedOrder.toJson (order : TrackedOrder) : Json.Value :=
  .object [("order_id", .string order.orderId), ("id", .string order.clientOrderId),
    ("client", .string order.clientId), ("symbol", .string order.symbol),
    ("side", .string (codeText order.side.code)), ("type", .string (codeText order.orderType.code)),
    ("price", .string order.price.toText), ("qty", .ofInt64 order.quantity),
    ("cum", .ofInt64 order.cumQty), ("leaves", .ofInt64 order.leavesQty),
    ("avg", .string order.avgPrice.toText), ("status", .string (codeText order.status.code)),
    ("status_name", .string order.status.name), ("updated", .string order.updatedAt.toRfc3339),
    ("key", .string order.key.text)]

/-- The kind of a tracker's refusal. -/
def TrackerError.kind : TrackerError → String
  | .duplicate _ => "order.ErrDuplicateOrder"
  | .unknown _ => "order.ErrUnknownOrder"
  | .illegal .. => "error"

/-- A tracker's refusal as JSON. -/
def TrackerError.toJson (error : TrackerError) : Json.Value := errorJson error.kind error.message

/-- A broken constraint as JSON. -/
def ConstraintError.toJson (error : ConstraintError) : Json.Value :=
  errorJson (if error.isQuantity then "order.ErrQuantity" else "order.ErrPrice") error.message

/-- A refused move as JSON. -/
def OrderStatus.IllegalMove.toJson (move : OrderStatus.IllegalMove) : Json.Value :=
  errorJson "error" move.message

end Bourse
