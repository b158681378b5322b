import Bourse.Event.Text
import Bourse.Json.Value

/-!
# Events as JSON

The JSON view of a market event names each header field briefly (`id`, `client`, `qty`,
`remaining`, `cum`, `avg`, …), writes codes as one-character strings (the empty string for the
zero byte), decimals as their shortest text, quantities as integers and the time in RFC 3339.
Trades add the execution fields.
-/

namespace Bourse

/-- A code byte as a string of that one character; the zero byte, which means "not set", is the
empty string. -/
def codeText (code : UInt8) : String :=
  if code == 0 then "" else String.singleton (Char.ofNat code.toNat)

namespace MarketEvent

/-- The JSON view of the event. -/
def toJson (event : MarketEvent) : Json.Value :=
  let h := event.header
  let base : List (String × Json.Value) :=
    [("kind", .string event.kind.name), ("id", .string h.clientOrderId),
      ("client", .string h.clientId), ("account", .string h.account),
      ("symbol", .string h.symbol), ("side", .string (codeText h.side.code)),
      ("type", .string (codeText h.orderType.code)), ("price", .string h.price.toText),
      ("qty", .ofInt64 h.orderQty), ("remaining", .ofInt64 h.remainingQty),
      ("cum", .ofInt64 h.cumQty), ("avg", .string h.avgPrice.toText),
      ("time", .string h.transactTime.toRfc3339), ("action", .string h.action.name)]
  match event.execution? with
  | some x => .object (base ++ [("exec_qty", .ofInt64 x.execQty),
      ("exec_price", .string x.execPrice.toText), ("contra_id", .string x.contraOrderId),
      ("contra_client", .string x.contraClientId)])
  | none => .object base

end MarketEvent

/-- A log field value as JSON: text as a string, numbers as numbers, times in RFC 3339 and
durations in their written form. -/
def FieldValue.toJson : FieldValue → Json.Value
  | .text value => .string value
  | .int value => .ofInt value
  | .number value => .number value.toText
  | .bool value => .bool value
  | .time value => .string value.toRfc3339
  | .duration value => .string value.toText

/-- A log field value as plain text: times as date, time, offset and zone, durations in their
written form. -/
def FieldValue.toText : FieldValue → String
  | .text value => value
  | .int value => toString value
  | .number value => value.toText
  | .bool value => if value then "true" else "false"
  | .time value => value.format "2006-01-02 15:04:05.999999999 -0700 MST"
  | .duration value => value.toText

/-- Log fields as a JSON object. -/
def fieldsToJson (fields : List Field) : Json.Value :=
  .object (fields.map fun (name, value) => (name, value.toJson))

end Bourse
