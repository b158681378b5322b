import Bourse.Portfolio.Basic
import Bourse.Event.Text
import Bourse.Replay.Lifecycle
import Bourse.Time.Layout

/-!
# Trade logs

A trade log is a text journal of one client's positions and of the replay around them. Each
record ends with a newline:

- `New Position: ` / `Filled Position: ` / `Cancelled Position: `, a newline, and the event's
  one-line summary, for what the client learned;
- `Backtest started @ T` and `Backtest ended @ T`, with the time in the log's layout, for the
  replay's start and stop; the stop also flushes the log.

Records are buffered and reach the sink when the log is flushed. A sink that fails keeps
failing, and the first failure is what every later flush reports.
-/

namespace Bourse

/-- Where a trade log's text goes. -/
inductive TradeSink where
  /-- A sink that takes everything. -/
  | accepting
  /-- A sink whose writes fail with `writeError` and whose closing fails with `closeError`. -/
  | failing (writeError closeError : String)
  deriving Repr, Inhabited

/-- A trade log. -/
structure TradeLog where
  /-- The layout times are written in. -/
  layout : String
  /-- Where the text goes. -/
  sink : TradeSink
  /-- Text written but not yet flushed. -/
  buffered : String
  /-- Text that reached the sink. -/
  flushed : String
  /-- The number of records written. -/
  records : Nat
  /-- The first failure of the sink. -/
  failure : Option String
  deriving Repr, Inhabited

namespace TradeLog

/-- The layout used when none is given: date and time to the second. -/
def defaultLayout : String := "2006-01-02 15:04:05"

/-- A trade log writing to a sink; an empty layout means the default one. -/
def new (sink : TradeSink) (layout : String) : TradeLog :=
  ⟨if layout == "" then defaultLayout else layout, sink, "", "", 0, none⟩

/-- Writes one record. -/
def write (log : TradeLog) (record : String) : TradeLog :=
  { log with buffered := log.buffered ++ record ++ "\n", records := log.records + 1 }

/-- Sends the buffered text to the sink; gives the first failure of the sink, if any. -/
def flush (log : TradeLog) : TradeLog × Option String :=
  if log.buffered.isEmpty then (log, log.failure)
  else match log.sink with
    | .accepting => ({ log with flushed := log.flushed ++ log.buffered, buffered := "" }, log.failure)
    | .failing writeError _ =>
      let failure := log.failure.getD writeError
      ({ log with failure := some failure }, some failure)

/-- Flushes and closes; gives the flush failure, or else the failure to close. -/
def close (log : TradeLog) : TradeLog × Option String :=
  let (log, failure) := log.flush
  match failure, log.sink with
  | some failure, _ => (log, some failure)
  | none, .failing _ closeError => (log, some closeError)
  | none, .accepting => (log, none)

/-- The title of the record of what a client learned. -/
def title : ClientEventType → String
  | .newPosition => "New Position"
  | .filled => "Filled Position"
  | .cancel => "Cancelled Position"

/-- Records what a client learned. -/
def onClientEvent (log : TradeLog) (event : ClientEvent) : TradeLog :=
  log.write (title event.type ++ ": \n" ++ event.event.summary)

/-- Records a replay's start or stop; the stop also flushes. `fallback` is the time used when
the announcement has none. -/
def onLifecycle (log : TradeLog) (announcement : Lifecycle) (fallback : Instant) : TradeLog :=
  let moment := if announcement.moment.isZero then fallback else announcement.moment
  match announcement.type with
  | .started => log.write ("Backtest started @ " ++ moment.format log.layout)
  | .stopped => (log.write ("Backtest ended @ " ++ moment.format log.layout)).flush.1

/-- The failure to open a trade log at a path that names a directory. -/
def directoryError (path : String) : String :=
  "open trade log: open " ++ path ++ ": is a directory"

/-- All text written, flushed or not. -/
def text (log : TradeLog) : String := log.flushed ++ log.buffered

end TradeLog

end Bourse
