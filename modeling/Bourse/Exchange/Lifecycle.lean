import Bourse.Exchange.Basic
import Bourse.Replay.Dial
import Bourse.Net.Address

/-!
# Building, starting and stopping an exchange

**Building** goes in stages, and the first that fails names itself in the error:

1. the infrastructure: the logger its settings describe, the metrics (a metric whose full name
   the registry refuses ends the program at once);
2. the market: the matching strategy, the clock (simulated or the wall's), the book with the
   market-data publisher and, for a positive bar interval, the bars;
3. the gateway: the symbol's constraints, and the trade log when a path is set for it; market
   data is streamed when its buffer is positive;
4. the replay, when enabled: its interval and its source, then the simulator at its delay.

The components then are the server, the settings watcher when the settings file is watched, and
the simulator when a replay is configured.

**Starting** starts the components in order: the server listens at its address, the watcher
needs the directory of the settings file, and the simulator runs the replay. When one fails,
those already started stop again, last first, and starting fails naming the component.

A **replay** is announced when it starts and when it stops. The trade log records both, the
replay's logger logs `simulation_started` with its interval and delay and `simulation_stopped`
with the rows applied; the stop is also logged as `replay_finished`, with the error if the
source failed, and, when the settings say so, the exchange is then due to stop. Each applied
row counts by action, and the replay counts as running while it runs.

**Stopping** happens once: the components stop, last first (the simulator is asked to stop,
the watcher stops watching, the server shuts the session endpoints), then every session closes
and every portfolio leaves the book, and the trade log is written to its file.

The exchange is **healthy** unless a component reports a problem: the server when it is not up,
the simulator when its source failed. The first problem, in the order of the components, is
reported.

A **write** to the watched settings file reloads the settings (see `SettingsWatcher`); a new
replay delay takes effect at once, and other changes wait for a restart.
-/

namespace Bourse

namespace Exchange

/-- The components of an exchange, in the order they start. -/
def componentsOf (watched : Bool) (replaying : Bool) : List Component :=
  [.server] ++ (if watched then [.watcher] else []) ++ (if replaying then [.simulator] else [])

/-- The simulator a replay's settings describe, or why there is none. -/
def simulatorOf (settings : Settings) (disk : Disk) : Except String Simulator := do
  let r := settings.replay
  let (interval, problem) := r.interval
  if let some e := problem then throw e.message
  let source ← ReplaySource.connect (lossyText r.source) r.csvPath (disk.read? r.csvPath) r.dateTimeFormat
    r.redis.url r.redis.stream (Int64.ofInt r.redis.pageSize)
  return (Simulator.new ⟨settings.exchange.symbol, settings.exchange.serverId, interval⟩ source).setDelay
    r.delay

/-- Why an exchange could not be built. Each comes with the files as the stages before it left
them. -/
inductive BuildFailure where
  /-- A stage failed, and says why. -/
  | failed (message : String) (disk : Disk)
  /-- The metrics registry refused a metric, which ends the program at once. -/
  | brokeDown (message : String) (disk : Disk)

/-- Builds an exchange from its settings, with the files at hand and the wall clock's time;
`settingsPath` is the settings file when it is watched. -/
def build (settings : Settings) (settingsPath : Option String) (disk : Disk) (wall : Instant) :
    Except BuildFailure Exchange := do
  let (logger, disk) ← match Logger.build settings.log disk with
    | .ok built => pure built
    | .error e => throw (.failed ("build infrastructure failed: create logger failed: " ++ e) disk)
  let monitor := Monitor.new settings.metrics
  if let some refusal := monitor.refusal? then throw (.brokeDown refusal disk)
  let ex := settings.exchange
  let strategy ← match ExecutionStrategy.ofName ex.strategy with
    | .ok strategy => pure strategy
    | .error e => throw (.failed ("build market failed: " ++ e.message) disk)
  let withBars := ex.barInterval.nanos > 0
  let (book, _) := (OrderBook.empty ex.symbol strategy : OrderBook FloorRole).subscribe "marketdata"
    .marketData
  let book := if withBars then (book.subscribe "bars" .bars).1 else book
  let constraints ← match ex.constraints with
    | .ok constraints => pure constraints
    | .error e => throw (.failed ("build gateway failed: " ++ e) disk)
  let (tradeLog, disk) ← if ex.tradeLogPath.isEmpty then pure (none, disk) else
    match disk.openAppend ex.tradeLogPath with
    | .ok opened => pure (some (ex.tradeLogPath, TradeLog.new .accepting ""), opened)
    | .error e => throw (.failed ("build gateway failed: open trade log: " ++ e) disk)
  let simulator ← if !settings.replay.enabled then pure none else
    match simulatorOf settings disk with
    | .ok simulator => pure (some simulator)
    | .error e => throw (.failed ("build replay failed: " ++ e) disk)
  let floor : Floor :=
    { published := #[], bars := if withBars then some (BarAggregator.new ex.barInterval ex.barKeep) else none,
      gateway := GatewayState.new ex.symbol constraints wall, credits := MatchCredits.empty,
      owner := ex.serverId, now := wall }
  return { settings, settingsPath, wall, disk, logger, logLines := #[],
           monitor, clock := SimClock.new ex.useSimulationTime,
           run := ⟨book, floor, [], #[]⟩, feed := ex.marketDataBuffer > 0, tradeLog, simulator,
           components := componentsOf settingsPath.isSome simulator.isSome, serving := false,
           socketsShut := false, watcher := none, current := settings, replayStarted := false,
           replayError := none, replayEnded := false, stopped := false }

/-- Takes a replay's announcement: into the trade log, the replay's log and, at the stop, the
exchange's own log. -/
def announce (ex : Exchange) : ReplayNotice → Exchange
  | .rerun _ _ => ex
  | .lifecycle announcement =>
    let ex := ex.modifyTradeLog (·.onLifecycle announcement ex.wall)
    let replayLog := ex.logger.named "replay"
    match announcement.type with
    | .started =>
      match ex.simulator with
      | none => ex
      | some simulator =>
        let interval := simulator.config.interval
        ex.writeLog (replayLog.logReplay ex.wall "simulation_started"
          [("start", .time interval.start), ("end", .time interval.stop),
            ("delay", .text simulator.delay.toText)])
    | .stopped =>
      let rows : Field := ("rows", .int announcement.rows)
      let ex := ex.writeLog (replayLog.logReplay ex.wall "simulation_stopped" [rows])
      let failure : List Field := match announcement.error with
        | some e => [("error", .text e)]
        | none => []
      let ex := ex.writeLog (ex.logger.logReplay ex.wall "replay_finished" (rows :: failure))
      if ex.settings.replay.exitOnEnd then { ex with replayEnded := true } else ex

/-- A replay's source as it is when the replay runs: a file source reads its file then. -/
def sourceNow (disk : Disk) : ReplaySource → ReplaySource
  | .file path _ layout => .file path (disk.read? path) layout
  | source => source

/-- Runs the replay once, to its end. -/
def runReplay (ex : Exchange) : Exchange :=
  match ex.simulator with
  | none => ex
  | some simulator =>
    let simulator := { simulator with source := sourceNow ex.disk simulator.source }
    let ex := { ex with monitor := ex.monitor.replayRunningNow true }
    let (failure, replay) := Replay.start.run ⟨simulator, ex.clock, ex.wall, ex.run⟩
    let done := replay.simulator
    let ex := { ex with simulator := some { done with notices := #[], actions := #[] },
                        clock := replay.clock, run := replay.run }.settle
    let ex := done.actions.foldl (fun ex action => { ex with monitor := ex.monitor.replayRow action }) ex
    let ex := match failure with
      | some e =>
        let context : List Field := [("component", .text "simulator")]
        let ex := ex.writeLog ((ex.logger.named "replay").logError ex.wall e.message context)
        ex.writeLog (ex.logger.logError ex.wall e.message context)
      | none => ex
    let ex := done.notices.foldl announce ex
    { ex with monitor := ex.monitor.replayRunningNow false, replayError := failure.map (·.message) }

/-- Starts one component. -/
def startComponent (ex : Exchange) : Component → Except String Exchange
  | .server =>
    let address := ex.settings.exchange.listenAddr
    match Net.listenError? address with
    | some e => .error ("exchange_server listen on " ++ address ++ ": " ++ e)
    | none => .ok { ex with serving := true }
  | .watcher =>
    match ex.settingsPath with
    | none => .ok ex
    | some path =>
      match SettingsWatcher.start ex.disk path Duration.second with
      | .ok watcher => .ok { ex with watcher := some watcher }
      | .error e => .error e
  | .simulator => .ok { ex with replayStarted := true }.runReplay

/-- Stops one component. -/
def stopComponent (ex : Exchange) : Component → Exchange
  | .server => if ex.serving then { ex with serving := false, socketsShut := true } else ex
  | .watcher => { ex with watcher := none }
  | .simulator =>
    if ex.replayStarted then { ex with simulator := ex.simulator.map fun s => { s with stopRequested := true } }
    else ex

/-- Starts the components in order from `pending`, `started` being those already started, most
recent first; a failure stops them again and names the component. -/
def startFrom (ex : Exchange) (started : List Component) : List Component → Exchange × Option String
  | [] => (ex, none)
  | component :: pending =>
    match ex.startComponent component with
    | .ok ex => ex.startFrom (component :: started) pending
    | .error e =>
      (started.foldl stopComponent ex,
        some ("start failed: start " ++ component.name ++ " failed: " ++ e))

/-- Starts the exchange; gives why it failed, if it did. -/
def start (ex : Exchange) : Exchange × Option String := ex.startFrom [] ex.components

/-- Closes every session and takes every portfolio off the book. -/
def closeGateway (ex : Exchange) : Exchange :=
  let book := ex.gateway.clients.foldl (fun book c => book.unsubscribe c.subscription) ex.book
  let ex := { ex with run := { ex.run with book } }
  ex.modifyGateway fun g => { g with clients := g.clients.map fun c => { c with connected := false, outbox := #[] } }

/-- Writes the trade log to its file and closes it. -/
def closeTradeLog (ex : Exchange) : Exchange :=
  match ex.tradeLog with
  | none => ex
  | some (path, log) =>
    let (closed, _) := log.close
    { ex with tradeLog := some (path, closed), disk := ex.disk.append path closed.text }

/-- Stops the exchange; stopping again does nothing. -/
def stop (ex : Exchange) : Exchange :=
  if ex.stopped then ex
  else
    let ex := ex.components.reverse.foldl stopComponent ex
    { ex.closeGateway.closeTradeLog with stopped := true }

/-- The problem a component reports, if any. -/
def problem (ex : Exchange) : Component → Option String
  | .server => if ex.serving then none else some "exchange_server not started"
  | .watcher => none
  | .simulator => ex.replayError

/-- The first problem of a component, naming it; none when the exchange is healthy. -/
def health (ex : Exchange) : Option String :=
  ex.components.findSome? fun c => (ex.problem c).map fun e => c.name ++ " unhealthy: " ++ e

/-- A file was written: the watcher reloads the settings when it is the settings file, and a new
replay delay takes effect. -/
def noticeWrite (ex : Exchange) (path : String) : Exchange :=
  match ex.watcher with
  | none => ex
  | some watcher =>
    let change : WatchNotice := ⟨ex.wall, ⟨path, .write⟩, ex.disk.read? watcher.target⟩
    let (watcher, loaded) := watcher.notice [] change
    let ex := { ex with watcher := some watcher }
    match loaded with
    | none => ex
    | some next =>
      let held := SettingsHolder.take ⟨ex.current, ex.simulator⟩ next
      { ex with current := held.current, simulator := held.simulator }

end Exchange

end Bourse
