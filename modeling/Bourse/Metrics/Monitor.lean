import Bourse.Metrics.Exposition
import Bourse.Config.Basic

/-!
# The exchange's metrics

The exchange counts the order messages its gateway receives and rejects, the execution reports
it sends, WebSocket connections and disconnections, the events its book publishes, deletions
or fills that find no resting order, failing subscribers, trades and traded volume, and the
rows its replay handles. It keeps gauges of each session's queue, of resting orders per side,
of the best prices (`-1` when a side is empty) and of whether a replay runs, and a histogram of
how long the book's lock is held.

Metric names start with the namespace and subsystem of the metrics settings.
-/

namespace Bourse

/-- The exchange's metrics. -/
structure Monitor where
  /-- The namespace and subsystem of the names. -/
  names : MetricsSection
  /-- Order messages received, per message type. -/
  ordersReceived : LabelledValues
  /-- Order messages rejected, per reason. -/
  ordersRejected : LabelledValues
  /-- Execution reports sent, per status. -/
  executions : LabelledValues
  /-- The queue length of each session. -/
  sessionQueue : LabelledValues
  /-- WebSocket connections. -/
  wsConnections : Float
  /-- WebSocket disconnections. -/
  wsDisconnects : Float
  /-- Events the book published, per kind. -/
  bookEvents : LabelledValues
  /-- Deletions or fills that found no resting order, per operation. -/
  lookupMisses : LabelledValues
  /-- Failed subscriber calls, per subscriber. -/
  subscriberFailures : LabelledValues
  /-- Resting orders per side. -/
  restingOrders : LabelledValues
  /-- The best bid. -/
  bidPrice : Float
  /-- The best offer. -/
  offerPrice : Float
  /-- Seconds the book's lock was held. -/
  lockHold : Histogram
  /-- Trade reports. -/
  trades : Float
  /-- Traded quantity. -/
  tradedVolume : Float
  /-- Replayed rows, per action. -/
  replayRows : LabelledValues
  /-- One while a replay runs, else zero. -/
  replayRunning : Float
  deriving Repr

namespace Monitor

/-- The bucket bounds of the lock histogram, in seconds. -/
def lockBounds : List Float := [0.00001, 0.00005, 0.0001, 0.0005, 0.001, 0.005, 0.01, 0.05, 0.1]

/-- Metrics with nothing recorded. -/
def new (names : MetricsSection) : Monitor :=
  ⟨names, .empty, .empty, .empty, .empty, 0, 0, .empty, .empty, .empty, .empty, 0, 0,
    Histogram.empty lockBounds, 0, 0, .empty, 0⟩

/-- Counts an order message of a type. -/
def orderReceived (m : Monitor) (msgType : String) : Monitor :=
  { m with ordersReceived := m.ordersReceived.add msgType 1 }

/-- Counts a rejection for a reason. -/
def orderRejected (m : Monitor) (reason : String) : Monitor :=
  { m with ordersRejected := m.ordersRejected.add reason 1 }

/-- Counts an execution report of a status. -/
def execution (m : Monitor) (status : String) : Monitor :=
  { m with executions := m.executions.add status 1 }

/-- Sets a session's queue length. -/
def queueDepth (m : Monitor) (session : String) (depth : Int) : Monitor :=
  { m with sessionQueue := m.sessionQueue.set session (Float.ofInt depth) }

/-- Forgets a session's queue. -/
def removeSession (m : Monitor) (session : String) : Monitor :=
  { m with sessionQueue := m.sessionQueue.remove session }

/-- Counts a WebSocket connection. -/
def wsConnected (m : Monitor) : Monitor := { m with wsConnections := m.wsConnections + 1 }

/-- Counts a WebSocket disconnection. -/
def wsDisconnected (m : Monitor) : Monitor := { m with wsDisconnects := m.wsDisconnects + 1 }

/-- Counts a book event of a kind. -/
def bookEvent (m : Monitor) (kind : String) : Monitor :=
  { m with bookEvents := m.bookEvents.add kind 1 }

/-- Counts an operation that found no resting order. -/
def lookupMiss (m : Monitor) (op : String) : Monitor :=
  { m with lookupMisses := m.lookupMisses.add op 1 }

/-- Counts a failed subscriber call. -/
def subscriberFailure (m : Monitor) (subscriber : String) : Monitor :=
  { m with subscriberFailures := m.subscriberFailures.add subscriber 1 }

/-- Sets the resting orders of a side. -/
def resting (m : Monitor) (side : String) (count : Int) : Monitor :=
  { m with restingOrders := m.restingOrders.set side (Float.ofInt count) }

/-- Sets the best prices. -/
def bestPrices (m : Monitor) (bid offer : Float) : Monitor :=
  { m with bidPrice := bid, offerPrice := offer }

/-- A span of nanoseconds in seconds: whole seconds plus the rest over a billion. -/
def seconds (nanos : Int) : Float :=
  Float.ofInt (nanos.tdiv 1000000000) + Float.ofInt (nanos.tmod 1000000000) / 1000000000

/-- Records how long the book's lock was held, in nanoseconds. -/
def lockHeld (m : Monitor) (nanos : Int) : Monitor :=
  { m with lockHold := m.lockHold.observe (seconds nanos) }

/-- Records a trade report of a quantity. -/
def trade (m : Monitor) (qty : Int) : Monitor :=
  { m with trades := m.trades + 1, tradedVolume := m.tradedVolume + Float.ofInt qty }

/-- Counts a replayed row of an action. -/
def replayRow (m : Monitor) (action : String) : Monitor :=
  { m with replayRows := m.replayRows.add action 1 }

/-- Sets whether a replay runs. -/
def replayRunningNow (m : Monitor) (running : Bool) : Monitor :=
  { m with replayRunning := if running then 1 else 0 }

/-- The metric families. -/
def families (m : Monitor) : List MetricFamily :=
  let full := metricName m.names.namespaceName m.names.subsystem
  [⟨full "orders_received_total", "网关收到的订单消息数", .counters "msg_type" m.ordersReceived⟩,
   ⟨full "orders_rejected_total", "网关拒单数", .counters "reason" m.ordersRejected⟩,
   ⟨full "executions_total", "发出的执行回报数", .counters "status" m.executions⟩,
   ⟨full "session_queue_depth", "会话入站队列长度", .gauges "session" m.sessionQueue⟩,
   ⟨full "ws_connections_total", "WebSocket连接次数", .counter m.wsConnections⟩,
   ⟨full "ws_disconnects_total", "WebSocket断开次数", .counter m.wsDisconnects⟩,
   ⟨full "book_events_total", "订单簿发布的事件数", .counters "kind" m.bookEvents⟩,
   ⟨full "book_lookup_miss_total", "未找到挂单的删除或成交", .counters "op" m.lookupMisses⟩,
   ⟨full "subscriber_failures_total", "订阅者回调失败次数",
     .counters "subscriber" m.subscriberFailures⟩,
   ⟨full "resting_orders", "挂单数量", .gauges "side" m.restingOrders⟩,
   ⟨full "best_bid_price", "当前买一价，空时为-1", .gauge m.bidPrice⟩,
   ⟨full "best_offer_price", "当前卖一价，空时为-1", .gauge m.offerPrice⟩,
   ⟨full "book_lock_hold_seconds", "订单簿锁持有时间（秒）", .histogram m.lockHold⟩,
   ⟨full "trades_total", "成交笔数总数", .counter m.trades⟩,
   ⟨full "traded_volume_total", "累计成交量", .counter m.tradedVolume⟩,
   ⟨full "replay_rows_total", "回放处理的行数", .counters "action" m.replayRows⟩,
   ⟨full "replay_running", "回放是否在运行(0/1)", .gauge m.replayRunning⟩]

/-- Why the registry refuses the metrics, if it does: the first family, in the order they are
registered, that it does not take. -/
def refusal? (m : Monitor) : Option String := m.families.findSome? MetricFamily.refusal?

/-- The text exposition of the metrics, as lines. -/
def exposition (m : Monitor) : List String := expositionLines m.families

/-- How many families the exposition shows. -/
def familyCount (m : Monitor) : Nat := (gatherFamilies m.families).length

end Monitor

end Bourse
