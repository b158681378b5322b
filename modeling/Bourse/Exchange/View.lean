import Bourse.Exchange.Visit
import Bourse.Json.Parse
import Bourse.Book.DeskView
import Bourse.Replay.View

/-!
# Visits as JSON

The JSON view of a visit to an exchange. A response shows its status and content type and then
its body: parsed, when it is JSON; as lines, for the metrics, whose content type is shown up to
its first parameter, leaving out the families asked to be hidden; as text otherwise. A read
shows, for each connection, the messages it got, a failed read as `read_error`.

The outcome shows how far the visit got: the load error under `new`; the build error under
`build`, or a breakdown as a panic; the start error under `start`, followed by the stop; or the
steps, then the stop unless a step stopped the exchange, the clients by id and the text of the
trade log's file.
-/

namespace Bourse

/-- Whether a text holds another. -/
def holdsText (text part : String) : Bool := (text.splitOn part).length > 1

/-- A response as JSON, leaving out the metrics of the `hidden` families. -/
def Response.toJson (response : Response) (hidden : List String) : Json.Value :=
  let status : String × Json.Value := ("status", .ofNat response.status)
  let plain : Json.Value := .object [status, ("content_type", .string response.contentType),
    ("text", .string response.body)]
  if response.contentType == "application/json" then
    match Json.parse response.body.toList with
    | .ok node => .object [status, ("content_type", .string response.contentType), ("body", node.value)]
    | .error _ => plain
  else if response.contentType == Response.metricsType then
    let lines := (response.body.splitOn "\n").filter fun line =>
      !line.isEmpty && !hidden.any (holdsText line)
    .object [status, ("content_type", .string ((response.contentType.splitOn ";").head?.getD "")),
      ("metrics", .array (lines.map Json.Value.string))]
  else plain

/-- What a step saw, as JSON. -/
def VisitResult.toJson (hidden : List String) : VisitResult → Json.Value
  | .response answer => answer.toJson hidden
  | .connected => .string "connected"
  | .refused answer =>
    .object [("status", .ofNat answer.status), ("text", .string answer.body)]
  | .received messages =>
    .object [("out", .object (messages.map fun (name, got) =>
      (name, .array (got.map fun m => m.getD (.object [("read_error", .bool true)])))))]
  | .closed => .string "closed"
  | .replayEnded => .string "ended"
  | .idle => .string "idle"
  | .delay millis => .object [("delayMs", Json.Value.ofOption Json.Value.ofInt millis)]
  | .health problem => .object [("health", Json.Value.ofOption plainErrorJson problem)]
  | .snapshot taken => taken.toJson none
  | .stopped => .object [("stop", .null), ("again", .null)]

/-- The members of a visit's outcome, the steps' results shown by `step`; `tradeLog` names the
file whose text is shown. -/
def VisitOutcome.members (outcome : VisitOutcome) (step : VisitResult → Json.Value)
    (tradeLog : String) : List (String × Json.Value) :=
  let begun : String × Json.Value := ("addr_before_start", .string "")
  match outcome with
  | .loadFailed e prefixed =>
    [("new", errorJson e.kind ((if prefixed then "load config failed: " else "") ++ e.message))]
  | .buildFailed message => [begun, ("build", plainErrorJson message)]
  | .brokeDown message => [("error", .string "panic"), ("message", .string message)]
  | .startFailed message _ => [begun, ("start", plainErrorJson message), ("stop", .null)]
  | .visited results ex stopStep =>
    [begun, ("steps", .array (results.map step))] ++
      (if stopStep then [] else [("stop", .null)]) ++
      [("clients", .array (ex.clientIds.map Json.Value.string)),
        ("trade_log", Json.Value.ofOption Json.Value.string (ex.disk.read? tradeLog))]

/-- The lines the exchange logged, when the visit got so far as to start it. -/
def VisitOutcome.logLines : VisitOutcome → List (LogSink × LogLine)
  | .startFailed _ ex | .visited _ ex _ => ex.logLines.toList
  | _ => []

end Bourse
