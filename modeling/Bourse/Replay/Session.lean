import Bourse.Replay.Simulator

/-!
# Replay sessions

A session sets a simulator up, lets orders into its book before the replay, runs the replay and
reports what happened during the run: the announcements, the events the book published, the
actions of the rows applied, the waits, the pages asked of a stream, the alerts, and the state
of the book and the clock afterwards. A session may run the simulator a second time after the
report, and then also gives that run's answer.
-/

namespace Bourse

/-- How a session sets its simulator up. -/
structure ReplaySetup where
  /-- What is replayed. -/
  config : SimulatorConfig
  /-- Where the rows come from. -/
  source : ReplaySource
  /-- The time outside the simulation. -/
  wall : Instant
  /-- The wait between simulated seconds, when set. -/
  delay : Option Duration
  /-- The replies of the message store to page requests. -/
  replies : List (Except String (List StreamEntry))
  /-- Orders offered to the book before the replay. -/
  before : List MarketEvent
  /-- Whether a stop is asked for before the run. -/
  stopFirst : Bool
  /-- The number of the wait that fails. -/
  failingWait : Option Nat
  /-- Whether the replay is cancelled from the start. -/
  cancelled : Bool
  /-- Whether alerts are sent. -/
  alerting : Bool
  /-- Whether a listener asks for another run when the run starts. -/
  rerunOnStart : Bool
  /-- Whether the simulator runs a second time after the report. -/
  runTwice : Bool
  deriving Repr

/-- What a session reports. -/
structure ReplayOutcome where
  /-- The book's answers to the orders offered before the replay; an error is a broken
  invariant. -/
  before : List (Except String (Except BookError Unit))
  /-- Why the run failed, if it did. -/
  error : Option RunError
  /-- What the listeners kept. -/
  notices : List ReplayNotice
  /-- The events the book published during the run. -/
  published : List MarketEvent
  /-- What the book noted during the run. -/
  notes : List BookNote
  /-- The actions of the rows applied. -/
  actions : List String
  /-- The waits asked for. -/
  waits : List Duration
  /-- The wait between simulated seconds. -/
  delay : Duration
  /-- Whether the simulator is running. -/
  running : Bool
  /-- The book afterwards. -/
  snapshot : Snapshot
  /-- The whole tape. -/
  trades : List Trade
  /-- The simulation time afterwards. -/
  clock : Instant
  /-- The pages asked of the message store. -/
  queries : List RangeQuery
  /-- The alerts raised. -/
  alerts : List Alert
  /-- The answer of the second run, when there was one. -/
  secondRun : Option (Option RunError)

namespace ReplaySetup

/-- The simulator of a setup. -/
def simulator (setup : ReplaySetup) : Replay ReplayRole ReplayAudience :=
  let replay := Replay.recorded setup.config setup.source setup.wall
  let simulator := match setup.delay with
    | some span => replay.simulator.setDelay span
    | none => replay.simulator
  { replay with simulator := { simulator with
      store := StreamStore.scripted setup.replies none, pacer := ⟨setup.failingWait, #[]⟩,
      cancelled := setup.cancelled, alerting := setup.alerting,
      listeners := if setup.rerunOnStart then [.recorder, .rerunOnStart] else [.recorder] } }

/-- Offers orders to the book, one at a time. -/
def offerAll : List MarketEvent → ReplayM ReplayRole ReplayAudience (List (Except String (Except BookError Unit)))
  | [] => pure []
  | event :: rest => do
    let answer ← Replay.bookAdd event
    return answer :: (← offerAll rest)

/-- Runs a session. -/
def run (setup : ReplaySetup) : ReplayOutcome :=
  let session : ReplayM ReplayRole ReplayAudience ReplayOutcome := do
    let before ← offerAll setup.before
    if setup.stopFirst then Replay.modifySimulator fun s => { s with stopRequested := true }
    let mark ← get
    let error ← Replay.start
    let r ← get
    let secondRun ← if setup.runTwice then some <$> Replay.start else pure none
    let s := r.simulator
    return { before, error, notices := s.notices.toList,
             published := r.run.audience.published.toList.drop mark.run.audience.published.size,
             notes := r.run.notes.toList.drop mark.run.notes.size, actions := s.actions.toList,
             waits := s.pacer.waits.toList, delay := s.delay, running := s.running,
             snapshot := r.book.snapshot r.now, trades := r.book.trades 0,
             clock := r.clock.time, queries := s.store.queries.toList,
             alerts := s.alerts.toList, secondRun }
  (session.run setup.simulator).1

end ReplaySetup

end Bourse
