import Bourse.Replay.Session
import Bourse.Book.DeskView

/-!
# Replays as JSON

The JSON views of archived rows, stream requests and entries, replay errors and the outcome of
a replay session. Errors of sources and sessions are plain errors (`error`), except the refusal
of a run while one is going, which is `sim.ErrAlreadyRunning`.
-/

namespace Bourse

/-- The JSON view of an archived row. -/
def ReplayRow.toJson (row : ReplayRow) : Json.Value :=
  .object [("id", .string row.orderId), ("action", .string (codeText row.action.code)),
    ("action_name", .string row.action.name), ("qty", .ofInt64 row.qty),
    ("price", .string row.price.toText), ("side", .string (codeText row.side.code)),
    ("time", .string row.time.toRfc3339), ("seq", .ofInt64 row.seq)]

/-- A plain error as JSON. -/
def plainErrorJson (message : String) : Json.Value := errorJson "error" message

/-- The kind of a run error. -/
def RunError.kind : RunError → String
  | .alreadyRunning => "sim.ErrAlreadyRunning"
  | _ => "error"

/-- A run error as JSON. -/
def RunError.toJson (error : RunError) : Json.Value := errorJson error.kind error.message

/-- What a listener kept, as JSON. -/
def ReplayNotice.toJson : ReplayNotice → Json.Value
  | .lifecycle announcement =>
    .object [("type", .string announcement.type.name), ("rows", .ofNat announcement.rows),
      ("error", .ofOption plainErrorJson announcement.error)]
  | .rerun error running =>
    .object [("reenter", .ofOption RunError.toJson error), ("running", .bool running)]

/-- A page request as JSON. -/
def RangeQuery.toJson (query : RangeQuery) : Json.Value :=
  .object [("stream", .string query.stream), ("start", .string query.start),
    ("stop", .string query.stop), ("count", .ofInt64 query.count)]

/-- A written stream entry as JSON, with its stream. -/
def StreamEntry.toJson (stream : String) (entry : StreamEntry) : Json.Value :=
  .object [("stream", .string stream), ("id", .string entry.id),
    ("values", .object (entry.values.map fun (key, value) =>
      (key, .ofOption Json.Value.string value)))]

/-- The answer of the book to an order offered before a replay, as JSON: `null` when taken. -/
def offerJson : Except String (Except BookError Unit) → Json.Value
  | .ok (.ok ()) => .null
  | .ok (.error e) => e.toJson
  | .error message => errorJson invariantKind message

/-- The members of a session's outcome; the pages asked of a stream and the alerts are included
when `withQueries` and `withAlerts` say so. -/
def ReplayOutcome.toJson (outcome : ReplayOutcome) (withQueries withAlerts : Bool) :
    List (String × Json.Value) :=
  [("error", .ofOption RunError.toJson outcome.error),
    ("pre", .array (outcome.before.map offerJson)),
    ("lifecycle", .array (outcome.notices.map ReplayNotice.toJson)),
    ("published", .array (outcome.published.map MarketEvent.toJson)),
    ("rows", .array (outcome.actions.map Json.Value.string)),
    ("sleeps", .array (outcome.waits.map fun span => .string span.toText)),
    ("delay", .string outcome.delay.toText), ("running", .bool outcome.running),
    ("book", outcome.snapshot.toJson none),
    ("trades", .array (outcome.trades.map Trade.toJson)),
    ("metrics", metricsJson outcome.notes), ("clock", .string outcome.clock.toRfc3339)] ++
  (if withQueries then [("xrange_calls", .array (outcome.queries.map RangeQuery.toJson))] else []) ++
  (if withAlerts then [("alerts", .array (outcome.alerts.map Alert.toJson))] else []) ++
  (match outcome.secondRun with
    | some answer => [("second_run", .ofOption RunError.toJson answer)]
    | none => [])

/-- Rows loaded into a stream in batches of the given sizes, the store refusing its write at
`failingWrite` if given, as JSON: each batch's rows written and failure, and every entry the
store took. -/
def loadBatchesJson (stream : String) (failingWrite : Option Nat) (rows : List ReplayRow)
    (batches : List Nat) : List (String × Json.Value) :=
  let (store, results) :=
    (StreamWriter.new stream).appendBatches StreamStore.client (StreamStore.scripted [] failingWrite)
      rows batches
  [("appends", .array (results.map fun (written, failure) =>
      .object [("written", .ofNat written), ("error", Json.Value.ofOption plainErrorJson failure)])),
    ("xadd", .array (store.written.toList.map fun (name, entry) => entry.toJson name))]

/-- A source opened over an interval and read to its end, then asked once more after it was
closed, as JSON: the rows, the close, and what the read after closing gave (`EOF` when there
was nothing). A failure to open or to read is shown alone. -/
def ReplaySource.readThroughJson (source : ReplaySource) (interval : ReplayInterval) :
    Json.Value :=
  match source.openCursor interval with
  | .error e => plainErrorJson e.message
  | .ok cursor =>
    let store := StreamStore.scripted [] none
    let (cursor, store, rows, last) := cursor.takeAll store false
    match last with
    | .failed e => plainErrorJson e.message
    | _ =>
      let after := match (cursor.close.next store false).2.2 with
        | .row row => row.toJson
        | .failed e => plainErrorJson e.message
        | _ => plainErrorJson "EOF"
      .object [("rows", .array (rows.map ReplayRow.toJson)), ("close", .null),
        ("after_close", after)]

end Bourse
