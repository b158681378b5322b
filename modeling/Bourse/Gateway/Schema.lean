import Bourse.Gateway.Message
import Bourse.Json.Schema

/-!
# Checking and decoding order messages

An inbound message is read as the first JSON value of the bytes a session received, checked
against `orderSchema`, and decoded into an `OrderMessage`. The schema asks for the message
type, client order id, symbol and side in every message, for order type, time in force and
quantity in new orders, for the original client order id in cancels, and for all of these in
replaces; it fixes the types and lengths of the fields. The business checks (symbol served,
quantity bounds, price grid) come later.

Whatever fails is answered with a business message reject: the reading error, or the first
schema failure at its location, or the decoding error, each reported as the text of the reject.
Decoding takes the whole of the bytes: a problem with the message's fields is reported first,
and only a message that decodes is refused for text after it.
The schema check itself breaks down on a quantity too large to read as a fraction (see
`Json.Schema.breaksOn`); the message then gets no answer of its own.
The reject names the message type and client order id when the message had them as strings;
its reason is "unsupported message type" when the type is a string other than `D`, `F` or `G`.
-/

namespace Bourse

open Json in
/-- The schema of inbound order messages. -/
def orderSchema : Schema :=
  let onType (code : String) (names : List String) : Schema :=
    Schema.implies (Schema.withProperties [("MsgType", Schema.exactly (.string code))])
      (Schema.requiring names)
  .mk [.object] none [] none none none ["MsgType", "ClOrdID", "Symbol", "Side"]
    [("MsgType", Schema.oneOf [.string "D", .string "F", .string "G"]),
      ("ClOrdID", Schema.text (some 1) none),
      ("OrigClOrdID", Schema.text (some 1) none),
      ("Symbol", Schema.text (some 1) none),
      ("Side", Schema.oneOf [.string "1", .string "2", .string "5"]),
      ("OrdType", Schema.text none (some 1)),
      ("TimeInForce", Schema.text none (some 1)),
      ("OrderQty", Schema.ofTypes [.integer]),
      ("Price", Schema.ofTypes [.number, .string]),
      ("Account", Schema.ofTypes [.string]),
      ("TransactTime", Schema.formatted .dateTime)]
    [onType "D" ["OrdType", "TimeInForce", "OrderQty"],
      onType "F" ["OrigClOrdID"],
      onType "G" ["OrigClOrdID", "OrdType", "TimeInForce", "OrderQty"]]
    none

/-- Whether a message type is one of the order messages. -/
def isOrderMessageType (msgType : String) : Bool :=
  msgType == "D" || msgType == "F" || msgType == "G"

/-- A business reject for a message, naming its type and client order id when the message is
an object that has them as strings. -/
def rejectMessage (message : Option Json.Value) (reason : Int) (text : String) : BusinessReject :=
  let textOf (key : String) : String :=
    match message.bind (·.field? key) with
    | some (.string s) => s
    | _ => ""
  ⟨textOf "MsgType", textOf "ClOrdID", reason, text⟩

/-- What reading an inbound message gave. -/
inductive Inbound where
  /-- The message, checked and decoded. -/
  | accepted (message : OrderMessage)
  /-- The business reject that answers the message. -/
  | refused (reject : BusinessReject)
  /-- Checking the message broke down with this runtime error. -/
  | brokeDown (error : String)
  deriving Repr

/-- The runtime error of a check that breaks down on a number it cannot read. -/
def unreadableNumberError : String := "runtime error: invalid memory address or nil pointer dereference"

/-- Reads, checks and decodes an inbound message. -/
def decodeOrderMessage (raw : String) : Inbound :=
  let source := raw.toList
  match Json.decodeFirst source with
  | .error e => .refused (rejectMessage none businessRejectOther ("malformed message: " ++ e.streamMessage))
  | .ok (node, rest) =>
    let value := node.value
    let message := match value with
      | .object _ => some value
      | _ => none
    if orderSchema.breaksOn value then .brokeDown unreadableNumberError
    else match orderSchema.check value "" with
    | some failure =>
      let reason := match value.field? "MsgType" with
        | some (.string t) => if isOrderMessageType t then businessRejectOther else businessRejectUnsupported
        | _ => businessRejectOther
      .refused (rejectMessage message reason failure.describe)
    | none =>
      let decoded : Except String OrderMessage := do
        let m ← OrderMessage.ofNode source node
        match Json.trailing rest with
        | some e => .error e.message
        | none => pure m
      match decoded with
      | .ok m => .accepted m
      | .error text => .refused (rejectMessage message businessRejectOther ("malformed message: " ++ text))

end Bourse
