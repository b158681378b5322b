import Bourse.Gateway.Translate
import Bourse.Order.Tracker
import Bourse.Portfolio.Basic

/-!
# Execution reports

Each client of the gateway has a portfolio following the book, a tracker following the
client's orders as the session sees them, and a reporter that turns what the portfolio learns
into execution reports:

* a new position is reported as a new order, unless it is the new order of a replace, which its
  replaced report already announced;
* a fill or partial fill moves the tracked order and is reported as a trade, with the quantity
  and price of the execution;
* a cancellation that ends a replace is reported as the replace: the tracker hands the order
  over to the new one, and the report carries the original client order id (its status is
  partly filled when the order had executed). Any other cancellation is reported as cancelled,
  and when the client asked for it the report carries the request's client order id, with the
  order's as the original.

The reporter remembers the cancels and replaces the client asked for, by the client order id of
the original order, until the book answers them.
-/

namespace Bourse

/-- A client of the gateway. -/
structure GatewayClient where
  /-- The client. -/
  id : String
  /-- The client's positions, as the book tells them. -/
  portfolio : Portfolio
  /-- The client's orders, as the session sees them. -/
  tracker : Tracker
  /-- Cancels asked for: the original client order id and the request's. -/
  cancels : List (String × String)
  /-- Replaces asked for: the original client order id and the new order. -/
  replaces : List (String × MarketEvent)
  /-- New orders of replaces whose new position is already reported. -/
  replaced : List String
  /-- The portfolio's subscription to the book. -/
  subscription : Nat
  /-- Whether the client has a session. -/
  connected : Bool
  /-- Messages sent to the session and not yet read. -/
  outbox : Array Outbound
  deriving Repr, Inhabited

/-- What reporting needs from outside: the time, and ids for reports. -/
structure ReportContext where
  /-- The time. -/
  now : Instant
  /-- The number of ids handed out so far. -/
  issued : Nat
  deriving Repr

/-- The id of a report, from the count of ids handed out. -/
def execIdOf (issued : Nat) : String := "exec-" ++ toString issued

/-- The id of an order, from the count of ids handed out. -/
def orderIdOf (issued : Nat) : String := "order-" ++ toString issued

/-- A report about a tracked order; `event` is the book's event it answers, if any, which gives
the account, the time of a new order and the execution of a trade. -/
def orderReport (order : TrackedOrder) (execType : ExecType) (event : Option MarketEvent)
    (execId : String) (now : Instant) : ExecutionReport :=
  let base : ExecutionReport :=
    { orderId := order.orderId, clOrdId := order.clientOrderId, origClOrdId := "", execId,
      execType, ordStatus := fixChar order.status.code, symbol := order.symbol,
      side := fixChar order.side.code, ordType := fixChar order.orderType.code,
      timeInForce := fixChar TimeInForce.goodTillCancel.code, orderQty := order.quantity,
      price := order.price, cumQty := order.cumQty, leavesQty := order.leavesQty,
      avgPx := order.avgPrice, lastQty := 0, lastPx := Decimal.zero, account := "",
      ordRejReason := 0, text := "", transactTime := now }
  match event with
  | none => base
  | some ev =>
    let h := ev.header
    let time := if !h.transactTime.isZero && execType == ExecType.new then h.transactTime else now
    let withEvent := { base with account := h.account, transactTime := time }
    match ev.execution? with
    | some x => { withEvent with lastQty := x.execQty, lastPx := x.execPrice }
    | none => withEvent

/-- The report of a rejected order message. -/
def rejectReport (message : OrderMessage) (reject : Reject) (execId : String) (now : Instant) :
    ExecutionReport :=
  { orderId := "NONE", clOrdId := message.clOrdId, origClOrdId := message.origClOrdId, execId,
    execType := ExecType.rejected, ordStatus := fixChar OrderStatus.rejected.code,
    symbol := message.symbol, side := message.side, ordType := message.ordType,
    timeInForce := message.timeInForce, orderQty := message.orderQty, price := message.price,
    cumQty := 0, leavesQty := 0, avgPx := Decimal.zero, lastQty := 0, lastPx := Decimal.zero,
    account := message.account, ordRejReason := reject.reason.code, text := reject.text,
    transactTime := now }

/-- The answer to a cancel or replace that cannot be done; `tracked` is the order when the
session tracks it. -/
def cancelRejectOf (message : OrderMessage) (tracked : Option TrackedOrder) (reason : Int)
    (text : String) : CancelReject :=
  { orderId := (tracked.map (·.orderId)).getD "NONE", clOrdId := message.clOrdId,
    origClOrdId := message.origClOrdId,
    ordStatus := fixChar ((tracked.map (·.status)).getD OrderStatus.rejected).code,
    responseTo := if message.msgType == "G" then responseToReplace else responseToCancel,
    reason, text }

/-- The name of the status a report gives. -/
def ExecutionReport.statusName (report : ExecutionReport) : String :=
  (OrderStatus.mk (firstByte report.ordStatus)).name

namespace GatewayClient

/-- A client that has done nothing yet, its portfolio subscribed under `subscription`. -/
def new (id : String) (subscription : Nat) : GatewayClient :=
  ⟨id, Portfolio.new id, Tracker.empty, [], [], [], subscription, false, #[]⟩

/-- Sends a message to the client's session; with no session it is lost. -/
def send (client : GatewayClient) (message : Outbound) : GatewayClient :=
  if client.connected then { client with outbox := client.outbox.push message } else client

/-- Remembers a cancel the client asked for. -/
def expectCancel (client : GatewayClient) (original request : String) : GatewayClient :=
  { client with cancels := Tracker.assign client.cancels original request }

/-- Remembers a replace the client asked for. -/
def expectReplace (client : GatewayClient) (original : String) (next : MarketEvent) :
    GatewayClient :=
  { client with replaces := Tracker.assign client.replaces original next }

/-- Forgets a cancel or replace that did not happen. -/
def forget (client : GatewayClient) (original : String) : GatewayClient :=
  let replaced := match Tracker.lookup client.replaces original with
    | some next => client.replaced.filter (· != next.header.clientOrderId)
    | none => client.replaced
  { client with cancels := Tracker.unassign client.cancels original,
                replaces := Tracker.unassign client.replaces original, replaced }

/-- Reports what the client learned: the client afterwards, the reports made (to send and to
count) and the number of ids used. -/
def report (client : GatewayClient) (learned : ClientEvent) (context : ReportContext) :
    GatewayClient × List ExecutionReport × Nat :=
  let ev := learned.event
  let h := ev.header
  let id := h.clientOrderId
  let execId := execIdOf (context.issued + 1)
  let now := context.now
  match learned.type with
  | .newPosition =>
    if client.replaced.contains id then
      ({ client with replaced := client.replaced.filter (· != id) }, [], 0)
    else
      match client.tracker.get? id with
      | none => (client, [], 0)
      | some order => (client, [orderReport order .new (some ev) execId now], 1)
  | .filled =>
    match client.tracker.apply ev (OrderStatus.ofEvent ev) now with
    | (_, .error _) => (client, [], 0)
    | (tracker, .ok order) =>
      ({ client with tracker }, [orderReport order .trade (some ev) execId now], 1)
  | .cancel =>
    match Tracker.lookup client.replaces id with
    | some next =>
      let client := { client with replaces := Tracker.unassign client.replaces id }
      match client.tracker.replace id next now with
      | .error _ => (client, [], 0)
      | .ok (tracker, order) =>
        let base := orderReport order .replaced (some next) execId now
        let status := if order.cumQty > 0 then fixChar OrderStatus.partiallyFilled.code
          else base.ordStatus
        ({ client with tracker, replaced := client.replaced ++ [order.clientOrderId] },
          [{ base with origClOrdId := id, ordStatus := status }], 1)
    | none =>
      let requested := Tracker.lookup client.cancels id
      let client := { client with cancels := Tracker.unassign client.cancels id }
      match client.tracker.apply ev .canceled now with
      | (_, .error _) => (client, [], 0)
      | (tracker, .ok order) =>
        let base := orderReport order .canceled (some ev) execId now
        let rep := match requested with
          | some request => { base with clOrdId := request, origClOrdId := id }
          | none => base
        ({ client with tracker }, [rep], 1)

end GatewayClient

end Bourse
