import Bourse.Exchange.Floor
import Bourse.Config.Load
import Bourse.Config.Watch
import Bourse.Log.Logger
import Bourse.Metrics.Monitor
import Bourse.Portfolio.TradeLog
import Bourse.Double.Read

/-!
# A running exchange

An exchange is one order book with everything around it: the floor that follows the book (the
market-data publisher, the bars, the gateway's clients and, while a replay runs, its creditor),
the clock that book and gateway read, the logger and the lines it wrote, the metrics, the trade
log, the simulator of a configured replay, and the parts that start and stop with it.

Whatever the book or the gateway did is settled into the rest after each operation, in the
order it happened:

* each event published counts by kind, a trade counts its quantity and is logged as a
  `trade_event` by the book's logger, an order a trade or delete could not find counts as a
  lookup miss, a failed subscriber counts too, and after each operation the book reports its
  resting orders and best prices; the book's own records go to its logger;
* the gateway's counts go to the metrics (messages received, rejections, reports sent), and what
  became of each order is logged as an `order_event` by the gateway's logger;
* what each client learned goes to the trade log, which every client's portfolio feeds.
-/

namespace Bourse

/-- A part of the exchange that starts and stops with it. -/
inductive Component where
  /-- The server of the management and session endpoints. -/
  | server
  /-- The watcher of the settings file. -/
  | watcher
  /-- The replay. -/
  | simulator
  deriving Repr, DecidableEq

/-- The name a component is reported under. -/
def Component.name : Component → String
  | .server => "exchange_server"
  | .watcher => "config_watcher"
  | .simulator => "simulator"

/-- The double nearest to a decimal. -/
def Decimal.toFloat (d : Decimal) : Float :=
  let magnitude := FloatText.nearest d.coefficient.natAbs 0 d.exponent
  if d.coefficient < 0 then -magnitude else magnitude

/-- An exchange built from its settings. -/
structure Exchange where
  /-- The settings it was built from. -/
  settings : Settings
  /-- The settings file, when it is watched. -/
  settingsPath : Option String
  /-- The time outside the simulation. -/
  wall : Instant
  /-- The files. -/
  disk : Disk
  logger : Logger
  /-- The lines written, with their sinks, oldest first. -/
  logLines : Array (LogSink × LogLine)
  /-- The metrics. -/
  monitor : Monitor
  /-- The clock of the book and the gateway. -/
  clock : SimClock
  /-- The book at work with the floor. -/
  run : BookRun FloorRole Floor
  /-- Whether sessions may follow the market data. -/
  feed : Bool
  /-- The trade log, with the path of its file. -/
  tradeLog : Option (String × TradeLog)
  /-- The simulator, when a replay is configured. -/
  simulator : Option Simulator
  /-- The components, in the order they start. -/
  components : List Component
  /-- Whether the server is up. -/
  serving : Bool
  /-- Whether the session endpoints were shut: no connection is served any more. -/
  socketsShut : Bool
  /-- The watcher, while it watches. -/
  watcher : Option SettingsWatcher
  /-- The settings as the watcher last saw them. -/
  current : Settings
  /-- Whether the replay was started. -/
  replayStarted : Bool
  /-- Why the replay failed, if it did. -/
  replayError : Option String
  /-- Whether the replay ended and the exchange should stop. -/
  replayEnded : Bool
  /-- Whether the exchange was stopped. -/
  stopped : Bool

namespace Exchange

/-- The time the book and the gateway work at. -/
def now (ex : Exchange) : Instant := ex.clock.now ex.wall

/-- The book. -/
def book (ex : Exchange) : OrderBook FloorRole := ex.run.book

/-- The floor. -/
def floor (ex : Exchange) : Floor := ex.run.audience

/-- The gateway. -/
def gateway (ex : Exchange) : GatewayState := ex.floor.gateway

/-- The exchange with a changed floor. -/
def modifyFloor (ex : Exchange) (change : Floor → Floor) : Exchange :=
  { ex with run := { ex.run with audience := change ex.run.audience } }

/-- The exchange with a changed gateway. -/
def modifyGateway (ex : Exchange) (change : GatewayState → GatewayState) : Exchange :=
  ex.modifyFloor fun floor => { floor with gateway := change floor.gateway }

/-- Writes log lines. -/
def writeLog (ex : Exchange) (lines : List (LogSink × LogLine)) : Exchange :=
  { ex with logLines := ex.logLines ++ lines.toArray }

/-- Changes the trade log, if there is one. -/
def modifyTradeLog (ex : Exchange) (change : TradeLog → TradeLog) : Exchange :=
  { ex with tradeLog := ex.tradeLog.map fun (path, log) => (path, change log) }

/-- Takes one thing the book reported. -/
def takeNote (ex : Exchange) : BookNote → Exchange
  | .published kind => { ex with monitor := ex.monitor.bookEvent kind.name }
  | .lookupMiss operation => { ex with monitor := ex.monitor.lookupMiss operation }
  | .subscriberFailed name => { ex with monitor := ex.monitor.subscriberFailure name }
  | .restingOrders side count => { ex with monitor := ex.monitor.resting side count }
  | .bestPrices bid offer => { ex with monitor := ex.monitor.bestPrices bid.toFloat offer.toFloat }
  | .traded trade =>
    let ex := { ex with monitor := ex.monitor.trade trade.execution.execQty.toInt }
    ex.writeLog ((ex.logger.named "book").logTrade ex.wall trade.toEvent.kind.name trade.toEvent.fields)
  | .held => ex
  | .log record => ex.writeLog ((ex.logger.named "book").write record.level record.message record.fields)
  | .alert _ => ex

/-- Takes one count of the gateway into the metrics. -/
def takeCount (ex : Exchange) : GatewayCount → Exchange
  | .received msgType => { ex with monitor := ex.monitor.orderReceived msgType }
  | .rejected reason => { ex with monitor := ex.monitor.orderRejected reason }
  | .execution status => { ex with monitor := ex.monitor.execution status }

/-- Settles what the book and the gateway reported since the last time: notes, counts, order
records and what the clients learned. -/
def settle (ex : Exchange) : Exchange :=
  let notes := ex.run.notes
  let gateway := ex.gateway
  let ex := { ex with run := { ex.run with notes := #[] } }
  let ex := ex.modifyGateway fun g => { g with counts := #[], orderNotes := #[], learned := #[] }
  let ex := notes.foldl takeNote ex
  let ex := gateway.counts.foldl takeCount ex
  let ex := gateway.orderNotes.foldl (fun ex note =>
    ex.writeLog ((ex.logger.named "gateway").logOrder ex.wall note.event note.orderId note.fields)) ex
  gateway.learned.foldl (fun ex (_, learned) => ex.modifyTradeLog (·.onClientEvent learned)) ex

/-- Runs a computation of the book and its floor at the exchange's time, then settles what it
reported. A broken invariant stops the computation where it was. -/
def onBook {α : Type} (ex : Exchange) (action : BookM FloorRole Floor α) : Exchange × Option α :=
  let ex := ex.modifyFloor (·.atTime ex.now)
  match EStateM.run action ex.run with
  | .ok value run => ({ ex with run }.settle, some value)
  | .error _ run => ({ ex with run }.settle, none)

/-- Opens a session for a client, making the client on first connection. -/
def connect (ex : Exchange) (client : String) : Exchange × Option SessionError :=
  let ex := ex.modifyFloor (·.atTime ex.now)
  let (book, floor, error) := connectClient ex.run.book ex.run.audience client
  ({ ex with run := { ex.run with book, audience := floor } }, error)

/-- Closes a client's session: what was not yet read is lost. -/
def disconnect (ex : Exchange) (client : String) : Exchange :=
  ex.modifyGateway fun g => g.updateClient client fun c => { c with connected := false, outbox := #[] }

/-- Handles what a client's session received. -/
def submit (ex : Exchange) (client raw : String) : Exchange :=
  (ex.onBook (GatewayM.handle client raw)).1

/-- The ids of the clients, in order. -/
def clientIds (ex : Exchange) : List String := ex.gateway.clientIds

end Exchange

end Bourse
