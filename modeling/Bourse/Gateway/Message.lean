import Bourse.Json.Record
import Bourse.Event.View
import Bourse.Order.Status

/-!
# Gateway messages

The messages a trading session carries, named by their FIX message types. Clients send order
messages: a new order single (`D`), an order cancel request (`F`) and an order cancel/replace
request (`G`), all of one shape. The gateway answers with execution reports (`8`), order cancel
rejects (`9`) and business message rejects (`j`), and publishes market data incremental
refreshes (`X`).

Messages travel as JSON objects keyed by FIX field names. One-character FIX values (side,
order type, time in force, status) travel as one-character strings; optional fields are left
out when empty.
-/

namespace Bourse

/-- A one-character FIX value as a string: the character of the code. -/
def fixChar (code : UInt8) : String := String.singleton (Char.ofNat code.toNat)

/-- An order message from a client: a new order, a cancel or a replace, told apart by
`msgType`. -/
structure OrderMessage where
  /-- `D`, `F` or `G`. -/
  msgType : String
  /-- The client's id of this request. -/
  clOrdId : String
  /-- The client's id of the order to cancel or replace. -/
  origClOrdId : String
  symbol : String
  /-- The side, as its FIX character. -/
  side : String
  /-- The order type, as its FIX character. -/
  ordType : String
  /-- The time in force, as its FIX character. -/
  timeInForce : String
  /-- The quantity. -/
  orderQty : Int64
  /-- The limit price. -/
  price : Decimal
  account : String
  /-- When the client sent it. -/
  transactTime : ZonedTime
  deriving Repr, Inhabited

namespace OrderMessage

/-- The message with every field empty. -/
def empty : OrderMessage := ⟨"", "", "", "", "", "", "", 0, Decimal.zero, "", ZonedTime.zero⟩

/-- The fields of an order message as JSON decodes them. -/
def fields : List (Json.FieldSpec OrderMessage) :=
  [Json.textField "MsgType" "gateway.MsgType" fun m v => { m with msgType := v },
    Json.textField "ClOrdID" "string" fun m v => { m with clOrdId := v },
    Json.textField "OrigClOrdID" "string" fun m v => { m with origClOrdId := v },
    Json.textField "Symbol" "string" fun m v => { m with symbol := v },
    Json.textField "Side" "string" fun m v => { m with side := v },
    Json.textField "OrdType" "string" fun m v => { m with ordType := v },
    Json.textField "TimeInForce" "string" fun m v => { m with timeInForce := v },
    Json.int64Field "OrderQty" fun m v => { m with orderQty := v },
    Json.decimalField "Price" fun m v => { m with price := v },
    Json.textField "Account" "string" fun m v => { m with account := v },
    Json.timeField "TransactTime" fun m v => { m with transactTime := v }]

/-- Decodes an order message from the whole of a text. -/
def ofText (text : String) : Except String OrderMessage :=
  Json.unmarshal "OrderMessage" "gateway.OrderMessage" fields text empty

/-- Decodes an order message from a value already read from `source`. -/
def ofNode (source : List Char) (node : Json.Node) : Except String OrderMessage :=
  Json.decodeRecord "OrderMessage" "gateway.OrderMessage" fields source node empty

/-- A member that is there only when its text is not empty. -/
def textMember (name value : String) : List (String × Json.Value) :=
  if value.isEmpty then [] else [(name, .string value)]

/-- The message as JSON; empty optional fields are left out. -/
def toJson (m : OrderMessage) : Json.Value :=
  .object ([("MsgType", .string m.msgType), ("ClOrdID", .string m.clOrdId)] ++
    textMember "OrigClOrdID" m.origClOrdId ++
    [("Symbol", .string m.symbol), ("Side", .string m.side)] ++
    textMember "OrdType" m.ordType ++ textMember "TimeInForce" m.timeInForce ++
    (if m.orderQty == 0 then [] else [("OrderQty", .ofInt64 m.orderQty)]) ++
    [("Price", .string m.price.toText)] ++ textMember "Account" m.account ++
    [("TransactTime", .string m.transactTime.toRfc3339)])

/-- The message as JSON, unless its time cannot be written. -/
def encode (m : OrderMessage) : Except String Json.Value :=
  match m.transactTime.jsonTimeError? with
  | some problem => .error problem
  | none => .ok m.toJson

end OrderMessage

/-- Why an order was rejected, as its FIX code. -/
structure RejectReason where
  code : Int
  deriving DecidableEq, Repr, Inhabited

namespace RejectReason

/-- The symbol is not traded here. -/
def unknownSymbol : RejectReason := ⟨1⟩
/-- No such order, or an order the gateway does not take. -/
def unknownOrder : RejectReason := ⟨5⟩
/-- The client order id is taken. -/
def duplicateOrder : RejectReason := ⟨6⟩
/-- The price does not suit the symbol. -/
def unsupportedOrderCharacteristic : RejectReason := ⟨11⟩
/-- The quantity does not suit the symbol. -/
def incorrectQuantity : RejectReason := ⟨13⟩
/-- Anything else. -/
def other : RejectReason := ⟨99⟩

/-- The name of the reason; an unknown code is its number. -/
def name (reason : RejectReason) : String :=
  match reason.code with
  | 1 => "unknown_symbol"
  | 5 => "unknown_order"
  | 6 => "duplicate_order"
  | 11 => "unsupported_order_characteristic"
  | 13 => "incorrect_quantity"
  | 99 => "other"
  | n => toString n

end RejectReason

/-- A rejection at the gateway: the reason and its explanation. -/
structure Reject where
  /-- Why. -/
  reason : RejectReason
  /-- The explanation. -/
  text : String
  deriving Repr, Inhabited

/-- The rejection as one line: reason name, colon, text. -/
def Reject.summary (reject : Reject) : String := reject.reason.name ++ ": " ++ reject.text

/-- The FIX execution types. -/
structure ExecType where
  code : String
  deriving DecidableEq, Repr, Inhabited

namespace ExecType

/-- The order is in the book. -/
def new : ExecType := ⟨"0"⟩
/-- The order was cancelled. -/
def canceled : ExecType := ⟨"4"⟩
/-- The order was replaced. -/
def replaced : ExecType := ⟨"5"⟩
/-- The order was rejected. -/
def rejected : ExecType := ⟨"8"⟩
/-- The order traded. -/
def trade : ExecType := ⟨"F"⟩

end ExecType

/-- An execution report. -/
structure ExecutionReport where
  /-- The exchange's order id. -/
  orderId : String
  /-- The client's id of the order or request. -/
  clOrdId : String
  /-- The client's id of the order replaced or cancelled. -/
  origClOrdId : String
  /-- The report's own id. -/
  execId : String
  /-- What happened. -/
  execType : ExecType
  /-- The order's status, as its FIX character. -/
  ordStatus : String
  symbol : String
  /-- The side, as its FIX character. -/
  side : String
  /-- The order type, as its FIX character. -/
  ordType : String
  /-- The time in force, as its FIX character. -/
  timeInForce : String
  /-- The quantity ordered. -/
  orderQty : Int64
  /-- The limit price. -/
  price : Decimal
  /-- The quantity executed. -/
  cumQty : Int64
  /-- The quantity open. -/
  leavesQty : Int64
  /-- The average execution price. -/
  avgPx : Decimal
  /-- The quantity of this execution. -/
  lastQty : Int64
  /-- The price of this execution. -/
  lastPx : Decimal
  account : String
  /-- Why the order was rejected, zero when it was not. -/
  ordRejReason : Int
  /-- An explanation. -/
  text : String
  /-- When. -/
  transactTime : Instant
  deriving Repr, Inhabited

/-- The report as JSON; empty optional fields are left out. -/
def ExecutionReport.toJson (r : ExecutionReport) : Json.Value :=
  .object ([("MsgType", .string "8"), ("OrderID", .string r.orderId),
      ("ClOrdID", .string r.clOrdId)] ++ OrderMessage.textMember "OrigClOrdID" r.origClOrdId ++
    [("ExecID", .string r.execId), ("ExecType", .string r.execType.code),
      ("OrdStatus", .string r.ordStatus), ("Symbol", .string r.symbol), ("Side", .string r.side)] ++
    OrderMessage.textMember "OrdType" r.ordType ++
    OrderMessage.textMember "TimeInForce" r.timeInForce ++
    [("OrderQty", .ofInt64 r.orderQty), ("Price", .string r.price.toText),
      ("CumQty", .ofInt64 r.cumQty), ("LeavesQty", .ofInt64 r.leavesQty),
      ("AvgPx", .string r.avgPx.toText)] ++
    (if r.lastQty == 0 then [] else [("LastQty", .ofInt64 r.lastQty)]) ++
    [("LastPx", .string r.lastPx.toText)] ++ OrderMessage.textMember "Account" r.account ++
    (if r.ordRejReason == 0 then [] else [("OrdRejReason", .ofInt r.ordRejReason)]) ++
    OrderMessage.textMember "Text" r.text ++
    [("TransactTime", .string r.transactTime.toRfc3339)])

/-- What a cancel reject answers: a cancel (`1`) or a replace (`2`). -/
def responseToCancel : String := "1"

/-- A cancel reject answering a replace. -/
def responseToReplace : String := "2"

/-- A cancel or replace that cannot be done because the order is done. -/
def cancelTooLate : Int := 0

/-- A cancel or replace of an order the gateway does not know. -/
def cancelUnknownOrder : Int := 1

/-- An order cancel reject. -/
structure CancelReject where
  /-- The exchange's order id, or `NONE`. -/
  orderId : String
  /-- The client's id of the request. -/
  clOrdId : String
  origClOrdId : String
  /-- The order's status, as its FIX character. -/
  ordStatus : String
  /-- Whether it answers a cancel or a replace. -/
  responseTo : String
  /-- Why. -/
  reason : Int
  /-- An explanation. -/
  text : String
  deriving Repr, Inhabited

/-- The cancel reject as JSON. -/
def CancelReject.toJson (r : CancelReject) : Json.Value :=
  .object ([("MsgType", .string "9"), ("OrderID", .string r.orderId),
      ("ClOrdID", .string r.clOrdId), ("OrigClOrdID", .string r.origClOrdId),
      ("OrdStatus", .string r.ordStatus), ("CxlRejResponseTo", .string r.responseTo),
      ("CxlRejReason", .ofInt r.reason)] ++ OrderMessage.textMember "Text" r.text)

/-- A message that could not be taken at all. -/
structure BusinessReject where
  /-- The type of the refused message, when it had one. -/
  refMsgType : String
  /-- The client's id in the refused message, when it had one. -/
  refId : String
  /-- `3` for an unsupported message type, else `0`. -/
  reason : Int
  /-- An explanation. -/
  text : String
  deriving Repr, Inhabited, DecidableEq

/-- A rejection for some other reason. -/
def businessRejectOther : Int := 0

/-- A rejection of a message type the gateway does not take. -/
def businessRejectUnsupported : Int := 3

/-- The business reject as JSON. -/
def BusinessReject.toJson (r : BusinessReject) : Json.Value :=
  .object ([("MsgType", .string "j")] ++ OrderMessage.textMember "RefMsgType" r.refMsgType ++
    OrderMessage.textMember "BusinessRejectRefID" r.refId ++
    [("BusinessRejectReason", .ofInt r.reason)] ++ OrderMessage.textMember "Text" r.text)

/-- A message the gateway sends to a session. -/
inductive Outbound where
  | report (report : ExecutionReport)
  | cancelReject (reject : CancelReject)
  | businessReject (reject : BusinessReject)
  deriving Repr, Inhabited

/-- The message as JSON. -/
def Outbound.toJson : Outbound → Json.Value
  | .report r => r.toJson
  | .cancelReject r => r.toJson
  | .businessReject r => r.toJson

/-- Why the message cannot be written as JSON, if it cannot: a report's time may not be
writable. -/
def Outbound.jsonError? : Outbound → Option String
  | .report r => r.transactTime.jsonTimeError?
  | .cancelReject _ | .businessReject _ => none

/-- One entry of an incremental refresh. -/
structure MarketDataEntry where
  /-- New, change or delete, as the number of the book's action. -/
  updateAction : String
  /-- Bid (`0`), offer (`1`) or trade (`2`). -/
  entryType : String
  /-- The client order id. -/
  entryId : String
  /-- For a trade, the other side's client order id. -/
  refId : String
  symbol : String
  /-- The side, as its FIX character. -/
  side : String
  /-- The price: the order's, or the execution's for a trade. -/
  price : Decimal
  /-- The size: what remains, or the execution's for a trade. -/
  size : Int64
  /-- When. -/
  time : Instant
  deriving Repr, Inhabited

/-- The market data an event of the book gives: orders report their open quantity under their
update action, trades their execution as a new trade entry. -/
def MarketDataEntry.ofEvent (event : MarketEvent) : MarketDataEntry :=
  let h := event.header
  match event.execution? with
  | some x => ⟨toString Action.add.code, "2", h.clientOrderId, x.contraOrderId, h.symbol,
      fixChar h.side.code, x.execPrice, x.execQty, h.transactTime⟩
  | none => ⟨toString h.action.code, (if event.kind == .bid then "0" else "1"), h.clientOrderId,
      "", h.symbol, fixChar h.side.code, h.price, h.remainingQty, h.transactTime⟩

/-- The incremental refresh of one event, as JSON. -/
def MarketDataEntry.toJson (entry : MarketDataEntry) : Json.Value :=
  .object [("MsgType", .string "X"), ("MDEntries", .array [.object
    ([("MDUpdateAction", .string entry.updateAction), ("MDEntryType", .string entry.entryType),
      ("MDEntryID", .string entry.entryId)] ++ OrderMessage.textMember "MDEntryRefID" entry.refId ++
    [("Symbol", .string entry.symbol), ("Side", .string entry.side),
      ("MDEntryPx", .string entry.price.toText), ("MDEntrySize", .ofInt64 entry.size),
      ("MDEntryTime", .string entry.time.toRfc3339)])])]

/-- The incremental refresh of one event as JSON, unless its time cannot be written. -/
def MarketDataEntry.encode (entry : MarketDataEntry) : Except String Json.Value :=
  match entry.time.jsonTimeError? with
  | some problem => .error problem
  | none => .ok entry.toJson

end Bourse
