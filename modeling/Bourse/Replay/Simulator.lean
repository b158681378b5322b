import Bourse.Book.Run
import Bourse.Alert.Basic
import Bourse.Replay.Clock
import Bourse.Replay.Credits
import Bourse.Replay.Lifecycle
import Bourse.Replay.Source

/-!
# Replaying an archive into a book

A simulator replays the rows of a source, over an interval, into an order book, on behalf of a
server that owns every replayed order. One run opens the source and takes its rows in order
until they end, a stop is asked for, the replay is cancelled or the source fails:

* the simulation clock moves to the row's time; when the row starts a new second of simulated
  time, the simulator first waits its delay (at least 100 ms), and a wait that fails ends the
  run quietly;
* a new order (or a row with another action) enters the book; a delete or expiry deletes the
  order; a match fills the resting order by the row's quantity, less the credit the order
  earned in the book's own trades between replayed orders (see `MatchCredits`), and nothing
  happens when no quantity is left; a transaction limit does nothing. A row the book refuses is
  skipped.

A run is announced when it starts and when it stops; the stop says how many rows were applied
and why the source failed, if it did, and a failure also raises an alert. A simulator runs once
at a time: a run asked for while one is going is refused. The credits live for one run, as
does the subscription that earns them, which follows the book's other subscribers.

The simulator drives any book whose subscribers host a replay (`ReplayHost`): they keep the
credits and are told whenever the simulation clock moves.
-/

namespace Bourse

/-- The shortest wait between simulated seconds. -/
def minimumDelay : Duration := Duration.ofMillis 100

/-- Why a run failed. -/
inductive RunError where
  /-- A run is already going. -/
  | alreadyRunning
  /-- The source could not be opened. -/
  | openFailed (error : SourceError)
  /-- Reading the row with this number (from one) failed. -/
  | readFailed (row : Nat) (error : SourceError)
  deriving Repr

/-- The message of a run error. -/
def RunError.message : RunError → String
  | .alreadyRunning => "simulation already running"
  | .openFailed error => "open replay source: " ++ error.message
  | .readFailed row error => "read replay row " ++ toString row ++ ": " ++ error.message

/-- Who listens to a simulator's announcements. -/
inductive ReplayListener where
  /-- Keeps every announcement. -/
  | recorder
  /-- Asks for another run when a run starts, and keeps the answer. -/
  | rerunOnStart
  deriving Repr, DecidableEq

/-- What the listeners kept. -/
inductive ReplayNotice where
  /-- An announcement. -/
  | lifecycle (announcement : Lifecycle)
  /-- The answer to a run asked for while a run started, and whether the simulator was
  running then. -/
  | rerun (error : Option RunError) (running : Bool)
  deriving Repr

/-- How a replay waits between simulated seconds: every wait is kept, and the wait with a given
number (from one) fails. -/
structure Pacer where
  /-- The number of the wait that fails. -/
  failAt : Option Nat
  /-- The waits asked for, oldest first. -/
  waits : Array Duration
  deriving Repr

/-- Waits; says whether the wait went through. -/
def Pacer.wait (pacer : Pacer) (span : Duration) : Pacer × Bool :=
  let waits := pacer.waits.push span
  ({ pacer with waits }, pacer.failAt != some waits.size)

/-- What a simulator replays and how. -/
structure SimulatorConfig where
  /-- The symbol of the replayed orders. -/
  symbol : String
  /-- The owner of the replayed orders. -/
  server : String
  /-- The interval replayed. -/
  interval : ReplayInterval
  deriving Repr


/-- A simulator's own state: what it replays, how it paces and where it reports. -/
structure Simulator where
  /-- What is replayed. -/
  config : SimulatorConfig
  /-- Where the rows come from. -/
  source : ReplaySource
  /-- The wait between simulated seconds. -/
  delay : Duration
  /-- Whether a run is going. -/
  running : Bool
  /-- Whether a stop was asked for; a run clears it when it ends. -/
  stopRequested : Bool
  /-- Whether the replay is cancelled. -/
  cancelled : Bool
  /-- The message store of stream sources. -/
  store : StreamStore
  /-- How waits go. -/
  pacer : Pacer
  /-- The listeners, in the order they listen. -/
  listeners : List ReplayListener
  /-- What the listeners kept. -/
  notices : Array ReplayNotice
  /-- Whether alerts are sent; only then are they kept. -/
  alerting : Bool
  /-- The alerts sent. -/
  alerts : Array Alert
  /-- The actions of the rows applied, by name, oldest first. -/
  actions : Array String
  deriving Repr

namespace Simulator

/-- A simulator that has not run, waiting the shortest delay, with one recording listener. -/
def new (config : SimulatorConfig) (source : ReplaySource) : Simulator :=
  { config, source, delay := minimumDelay, running := false, stopRequested := false,
    cancelled := false, store := StreamStore.scripted [] none, pacer := ⟨none, #[]⟩,
    listeners := [.recorder], notices := #[], alerting := false, alerts := #[], actions := #[] }

/-- Sets the wait between simulated seconds; a wait below the minimum becomes the minimum. -/
def setDelay (simulator : Simulator) (span : Duration) : Simulator :=
  { simulator with delay := if span.nanos < minimumDelay.nanos then minimumDelay else span }

end Simulator

/-- Subscribers of a book that host a replay: how they take the book's events, the role of the
subscriber that earns match credits, the credits they keep, and how they learn that the time
moved. -/
class ReplayHost (ρ : outParam Type) (σ : Type) where
  /-- How the subscribers take the book's events. -/
  deliver : Delivery ρ σ
  /-- The role of the subscriber that earns credits. -/
  creditor : ρ
  /-- The credits earned. -/
  credits : σ → MatchCredits
  /-- The subscribers' state with other credits. -/
  withCredits : σ → MatchCredits → σ
  /-- The subscribers' state once the time is this. -/
  atTime : σ → Instant → σ

/-- A simulator at work on a book, with the simulation clock and the wall clock. -/
structure Replay (ρ σ : Type) where
  simulator : Simulator
  /-- The simulation clock. -/
  clock : SimClock
  /-- The time outside the simulation. -/
  wall : Instant
  /-- The book at work with its subscribers. -/
  run : BookRun ρ σ

/-- Computations of a replay. -/
abbrev ReplayM (ρ σ : Type) := StateM (Replay ρ σ)

namespace Replay

variable {ρ σ : Type} [ReplayHost ρ σ]

/-- The book. -/
def book (replay : Replay ρ σ) : OrderBook ρ := replay.run.book

/-- The time the book works at. -/
def now (replay : Replay ρ σ) : Instant := replay.clock.now replay.wall

/-- Changes the simulator. -/
def modifySimulator (change : Simulator → Simulator) : ReplayM ρ σ Unit :=
  modify fun r => { r with simulator := change r.simulator }

/-- Runs a book computation; a broken invariant leaves what the book did so far and gives
its message. -/
def onBook {α : Type} (action : BookM ρ σ α) : ReplayM ρ σ (Except String α) := do
  let replay ← get
  match EStateM.run action replay.run with
  | .ok value run => set { replay with run }; return .ok value
  | .error message run => set { replay with run }; return .error message

/-- Offers an event to the book. -/
def bookAdd (event : MarketEvent) : ReplayM ρ σ (Except String (Except BookError Unit)) := do
  onBook (BookM.add ReplayHost.deliver queueLimit (← get).now event)

/-- Deletes the order an event names from the book. -/
def bookDelete (event : MarketEvent) : ReplayM ρ σ Unit := do
  let _ ← onBook (BookM.delete ReplayHost.deliver queueLimit (← get).now event)

/-- Changes the credits. -/
def modifyCredits (change : MatchCredits → MatchCredits) : ReplayM ρ σ Unit :=
  modify fun r =>
    let audience := ReplayHost.withCredits r.run.audience (change (ReplayHost.credits r.run.audience))
    { r with run := { r.run with audience } }

/-- Moves the simulation clock and tells the subscribers the time. -/
def moveClock (moment : Instant) : ReplayM ρ σ Unit :=
  modify fun r =>
    let r := { r with clock := r.clock.set moment }
    { r with run := { r.run with audience := ReplayHost.atTime r.run.audience r.now } }

/-- The refusal of a run asked for now, if the simulator is busy. -/
def busy : ReplayM ρ σ (Option RunError) := do
  return if (← get).simulator.running then some .alreadyRunning else none

/-- Tells the listeners an announcement. -/
def announce (announcement : Lifecycle) : ReplayM ρ σ Unit := do
  for listener in (← get).simulator.listeners do
    match listener with
    | .recorder => modifySimulator fun s => { s with notices := s.notices.push (.lifecycle announcement) }
    | .rerunOnStart =>
      if announcement.type == .started then
        let answer ← busy
        modifySimulator fun s => { s with notices := s.notices.push (.rerun answer s.running) }

/-- The order header of a row, owned by the server. -/
def rowHeader (config : SimulatorConfig) (row : ReplayRow) : Header :=
  { Header.empty with
    clientOrderId := row.orderId, clientId := config.server, account := config.server,
    symbol := config.symbol, side := row.side, orderType := OrderType.limit, price := row.price,
    orderQty := row.qty, transactTime := row.time }

/-- Applies a row to the book. -/
def applyRow (row : ReplayRow) : ReplayM ρ σ Unit := do
  modifySimulator fun s => { s with actions := s.actions.push row.action.name }
  let h := rowHeader (← get).simulator.config row
  let action := row.action
  if action == ReplayAction.transactionLimit then return
  if action == ReplayAction.delete || action == ReplayAction.expire then
    match MarketEvent.newOrder h with
    | .error _ => pure ()
    | .ok event =>
      modifyCredits (·.drop row.orderId)
      bookDelete event
  else if action == ReplayAction.partialMatch || action == ReplayAction.fullMatch then
    let (used, credits) := (ReplayHost.credits (← get).run.audience).take row.orderId row.qty
    modifyCredits fun _ => credits
    let qty := row.qty - used
    if qty == 0 then return
    let h := { h with cumQty := qty, avgPrice := row.price }
    let x : Execution := { Execution.empty with execQty := qty, execPrice := row.price }
    let event := if action == ReplayAction.fullMatch then MarketEvent.newFill h x
      else MarketEvent.newPartialFill h x
    let _ ← bookAdd event
  else
    match MarketEvent.newOrder h with
    | .error _ => pure ()
    | .ok event =>
      modifyCredits (·.drop row.orderId)
      let _ ← bookAdd event

/-- Waits the delay; says whether the wait went through. -/
def pause : ReplayM ρ σ Bool := do
  let simulator := (← get).simulator
  let (pacer, passed) := simulator.pacer.wait simulator.delay
  modifySimulator fun s => { s with pacer }
  return passed

/-- Takes rows from a cursor and applies them, for at most `budget` more rows; `applied` rows
are applied so far and `lastSecond` is the second of the last row. Gives the rows applied and
the failure of the source. -/
def replayFrom (cursor : ReplayCursor) (applied : Nat) (lastSecond : Instant) :
    Nat → ReplayM ρ σ (Nat × Option RunError)
  | 0 => return (applied, none)
  | budget + 1 => do
    let simulator := (← get).simulator
    if simulator.stopRequested then return (applied, none)
    let (cursor, store, step) := cursor.next simulator.store simulator.cancelled
    modifySimulator fun s => { s with store }
    match step with
    | .finished | .cancelled => return (applied, none)
    | .failed e => return (applied, some (.readFailed (applied + 1) e))
    | .row row =>
      moveClock row.time
      let second := row.time.truncate Duration.second
      if !lastSecond.isZero && second.nanos != lastSecond.nanos then
        if !(← pause) then return (applied, none)
      applyRow row
      replayFrom cursor (applied + 1) second budget

/-- Opens the source and replays its rows. A cursor hands out at most `bound` rows, so one more
step than that always reaches its end. -/
def replayAll : ReplayM ρ σ (Nat × Option RunError) := do
  let simulator := (← get).simulator
  match simulator.source.openCursor simulator.config.interval with
  | .error e => return (0, some (.openFailed e))
  | .ok cursor => replayFrom cursor 0 Instant.zero (cursor.bound simulator.store + 1)

/-- Raises the alert of a failed run. -/
def raiseFailure (error : RunError) : ReplayM ρ σ Unit :=
  modifySimulator fun s =>
    if s.alerting then
      { s with alerts := s.alerts.push ⟨.error, "replay aborted", Instant.zero,
        [("error", .text error.message), ("symbol", .text s.config.symbol)]⟩ }
    else s

/-- One run of the simulator; gives why it failed, if it did. -/
def start : ReplayM ρ σ (Option RunError) := do
  if let some refusal ← busy then return some refusal
  let (book, subscription) := (← get).book.subscribe "replay-credits" (ReplayHost.creditor σ)
  modify fun r =>
    let audience := ReplayHost.withCredits r.run.audience MatchCredits.empty
    { r with simulator := { r.simulator with running := true }, run := { r.run with book, audience } }
  announce ⟨.started, Instant.zero, 0, none⟩
  let (applied, failure) ← replayAll
  if let some e := failure then raiseFailure e
  announce ⟨.stopped, Instant.zero, applied, failure.map RunError.message⟩
  modify fun r =>
    let book := r.run.book.unsubscribe subscription
    { r with simulator := { r.simulator with running := false, stopRequested := false },
             run := { r.run with book } }
  return failure

end Replay

/-- The subscribers of a book that only the replay drives. -/
inductive ReplayRole where
  /-- Records every published event. -/
  | recorder
  /-- Credits the trades between replayed orders. -/
  | credits
  deriving Repr, DecidableEq

/-- What the subscribers of a book that only the replay drives keep. -/
structure ReplayAudience where
  /-- Every event published, oldest first. -/
  published : Array MarketEvent
  /-- The credits of the current run. -/
  credits : MatchCredits
  /-- The owner of the replayed orders. -/
  owner : String
  deriving Repr

/-- How the subscribers of a book that only the replay drives handle its events. -/
def replayDelivery : Delivery ReplayRole ReplayAudience := fun audience _ subscription event =>
  match subscription.role with
  | .recorder => ({ audience with published := audience.published.push event }, Reaction.none)
  | .credits =>
    ({ audience with credits := audience.credits.observe audience.owner event }, Reaction.none)

instance : ReplayHost ReplayRole ReplayAudience where
  deliver := replayDelivery
  creditor := .credits
  credits := (·.credits)
  withCredits := fun audience credits => { audience with credits }
  atTime := fun audience _ => audience

/-- A replay of `source` into a new book of the configured symbol, whose events are recorded;
the clock is enabled and starts at the start of the interval. -/
def Replay.recorded (config : SimulatorConfig) (source : ReplaySource) (wall : Instant) :
    Replay ReplayRole ReplayAudience :=
  let book : OrderBook ReplayRole := OrderBook.empty config.symbol .priceTime
  let (book, _) := book.subscribe "recorder" .recorder
  { simulator := Simulator.new config source,
    clock := (SimClock.new true).set config.interval.start, wall,
    run := ⟨book, ⟨#[], MatchCredits.empty, config.server⟩, [], #[]⟩ }

end Bourse
