/-!
# What log events must carry

Some log events have a schema: the fields every record of that event must carry. Orders that
are accepted or replaced carry the order's fields, fills the trade's fields (a partial fill the
remaining quantity first), and the replay's events their counts and times. An event without a
schema may carry anything.
-/

namespace Bourse

/-- The fields of a record about an order. -/
def orderFields : List String := ["client_id", "cl_ord_id", "symbol", "side", "order_qty", "price"]

/-- The fields of a record about a trade. -/
def tradeFields : List String :=
  ["client_id", "cl_ord_id", "side", "exec_qty", "exec_price", "contra_id"]

/-- The events with a schema, each with its required fields in order. -/
def logSchemas : List (String × List String) :=
  [("accepted", orderFields), ("replaced", orderFields), ("canceled", ["client_id", "cl_ord_id"]),
   ("rejected", ["client_id", "msg_type", "reason"]), ("FILL", tradeFields),
   ("PARTIAL_FILL", "remaining_qty" :: tradeFields),
   ("simulation_started", ["start", "end", "delay"]), ("simulation_stopped", ["rows"]),
   ("replay_finished", ["rows"])]

/-- The events with a schema, in order of their names. -/
def knownLogEvents : List String := (logSchemas.map (·.1)).mergeSort fun a b => decide (a ≤ b)

/-- Checks that a record of an event carries the fields its schema requires; the error names
the missing ones in the schema's order. -/
def checkLogSchema (event : String) (fields : List String) : Except String Unit :=
  match logSchemas.find? (·.1 == event) with
  | none => .ok ()
  | some (_, required) =>
    match required.filter (!fields.contains ·) with
    | [] => .ok ()
    | missing => .error (event ++ ": missing fields: " ++ ",".intercalate missing)

end Bourse
