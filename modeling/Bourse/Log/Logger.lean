import Bourse.Log.Field
import Bourse.Log.Schema
import Bourse.Config.Basic
import Bourse.Disk.Basic
import Bourse.Json.Value
import Bourse.Alert.Basic
import Bourse.Time.Layout
import Bourse.Text.Quote

/-!
# Structured logging

A logger writes lines to its sinks: standard output, a log file and an error file. Each sink
has a least level; standard output is written as JSON or in console form, files always as JSON.
A line carries its level, the logger's name (dotted, built up by naming), its message, and the
logger's context fields followed by the line's own fields.

Building a logger from the logging settings reads the least level (`debug`, `info` or empty,
`warn`, `error`, `dpanic`, `panic`, `fatal`, in lower or upper case), adds standard output when
the outputs name `stdout`, the log file when they name `file` and a path is given, and the
error file (errors only) when its path is given. Files are opened to append, their directories
made first. A logger with no sink at all is refused.

Events about orders, trades and the replay are logged at info level with their event name and
a time stamp; fields their schema requires but that are missing are named in `schema_error`.
Errors are logged with their message. Alerts are logged by a logger named `alert`, at info for
`INFO`, warn for `WARNING` and error otherwise, with the alert's level and time.
-/

namespace Bourse

/-- Where log lines go. -/
inductive LogSink where
  /-- Standard output. -/
  | stdout
  /-- A file. -/
  | file (path : String)
  deriving DecidableEq, Repr

/-- How lines are written. -/
inductive LogFormat where
  /-- One JSON object per line. -/
  | json
  /-- Tab-separated fields for people, with the fields as JSON at the end. -/
  | console
  deriving DecidableEq, Repr

/-- A sink with its format and least level (by rank, up to six for `fatal`). -/
structure LogCore where
  /-- Where it writes. -/
  sink : LogSink
  /-- How it writes. -/
  format : LogFormat
  /-- The least rank it writes. -/
  least : Nat
  deriving Repr

/-- A line as a sink receives it. -/
structure LogLine where
  /-- How it is written. -/
  format : LogFormat
  level : LogLevel
  /-- The logger's name; empty for none. -/
  name : String
  message : String
  /-- The context fields, then the line's own. -/
  fields : List Field
  deriving Repr

/-- A logger: its sinks, its name and its context fields. -/
structure Logger where
  /-- The sinks; none for a logger that discards everything. -/
  cores : List LogCore
  /-- The name; empty for none. -/
  name : String
  /-- Fields added to every line. -/
  context : List Field
  deriving Repr

/-- The rank of a least-level name. -/
def levelRank? (text : String) : Option Nat :=
  if ["debug", "DEBUG"].contains text then some 0
  else if ["info", "INFO", ""].contains text then some 1
  else if ["warn", "WARN"].contains text then some 2
  else if ["error", "ERROR"].contains text then some 3
  else if ["dpanic", "DPANIC"].contains text then some 4
  else if ["panic", "PANIC"].contains text then some 5
  else if ["fatal", "FATAL"].contains text then some 6
  else none

/-- Sets a field, replacing one of the same name. -/
def setField (fields : List Field) (name : String) (value : FieldValue) : List Field :=
  if fields.any (·.1 == name) then fields.map fun (k, v) => if k == name then (k, value) else (k, v)
  else fields ++ [(name, value)]

namespace Logger

/-- The logger that writes nothing. -/
def discard : Logger := ⟨[], "", []⟩

/-- Opens a log file to append, making its directory first. -/
def openLogFile (disk : Disk) (path : String) : Except String Disk := do
  let parent := Disk.parentOf path
  let disk ← if parent == "." then pure disk else disk.makeDirs parent
  disk.openAppend path

/-- The logger the logging settings describe, with the files it opened. -/
def build (config : LogSection) (disk : Disk) : Except String (Logger × Disk) := do
  let least ← match levelRank? config.level with
    | some rank => pure rank
    | none => throw ("invalid log level " ++ config.level ++ ": unrecognized level: " ++
        quoteText config.level)
  let outputs := config.outputs.getD []
  let mut cores : List LogCore := []
  let mut disk := disk
  if outputs.contains "stdout" then
    cores := cores ++ [⟨.stdout, if config.format == "console" then .console else .json, least⟩]
  if outputs.contains "file" && !config.outputFile.isEmpty then
    match openLogFile disk config.outputFile with
    | .ok d =>
      disk := d
      cores := cores ++ [⟨.file config.outputFile, .json, least⟩]
    | .error e => throw ("open log file failed: " ++ e)
  if !config.errorFile.isEmpty then
    match openLogFile disk config.errorFile with
    | .ok d =>
      disk := d
      cores := cores ++ [⟨.file config.errorFile, .json, 3⟩]
    | .error e => throw ("open error log file failed: " ++ e)
  if cores.isEmpty then
    throw ("no log outputs configured: [" ++ " ".intercalate outputs ++ "]")
  return (⟨cores, "", []⟩, disk)

/-- The logger with a further name part. -/
def named (logger : Logger) (part : String) : Logger :=
  if part.isEmpty then logger
  else { logger with name := if logger.name.isEmpty then part else logger.name ++ "." ++ part }

/-- The logger with more context fields. -/
def withFields (logger : Logger) (fields : List Field) : Logger :=
  { logger with context := logger.context ++ fields }

/-- The lines a record makes, one per sink that takes its level. -/
def write (logger : Logger) (level : LogLevel) (message : String) (fields : List Field) :
    List (LogSink × LogLine) :=
  logger.cores.filterMap fun core =>
    if core.least ≤ level.rank then
      some (core.sink, ⟨core.format, level, logger.name, message, logger.context ++ fields⟩)
    else none

/-- The lines of an event record: its schema checked, its name and time stamp added. -/
def logEvent (logger : Logger) (now : Instant) (message event : String) (fields : List Field) :
    List (LogSink × LogLine) :=
  let fields := match checkLogSchema event (fields.map (·.1)) with
    | .ok () => fields
    | .error problem => setField fields "schema_error" (.text problem)
  let fields := setField fields "event" (.text event)
  let fields := setField fields "ts" (.text now.toRfc3339)
  logger.write .info message fields

/-- The lines of an order event. -/
def logOrder (logger : Logger) (now : Instant) (event orderId : String) (fields : List Field) :
    List (LogSink × LogLine) :=
  logger.logEvent now "order_event" event (setField fields "order_id" (.text orderId))

/-- The lines of a trade event. -/
def logTrade (logger : Logger) (now : Instant) (event : String) (fields : List Field) :
    List (LogSink × LogLine) :=
  logger.logEvent now "trade_event" event fields

/-- The lines of a replay event. -/
def logReplay (logger : Logger) (now : Instant) (event : String) (fields : List Field) :
    List (LogSink × LogLine) :=
  logger.logEvent now "replay_event" event fields

/-- The lines of an error with its context. -/
def logError (logger : Logger) (now : Instant) (error : String) (fields : List Field) :
    List (LogSink × LogLine) :=
  let fields := setField fields "error" (.text error)
  let fields := setField fields "ts" (.text now.toRfc3339)
  logger.write .error "error_event" fields

/-- The log level of an alert level. -/
def alertLevel (level : AlertLevel) : LogLevel :=
  if level == AlertLevel.info then .info
  else if level == AlertLevel.warning then .warn
  else .error

/-- The lines of an alert, logged under the name `alert`. -/
def logAlert (logger : Logger) (alert : Alert) : List (LogSink × LogLine) :=
  (logger.named "alert").write (alertLevel alert.level) alert.message
    ([("alert_level", .text alert.level.name), ("alert_time", .time alert.timestamp)] ++
      alert.fields)

end Logger

/-- The layout of times in log lines. -/
def logTimeLayout : String := "2006-01-02T15:04:05.000Z0700"

/-- The digits of a count of nanoseconds as seconds, exactly. -/
def secondsLiteral (nanos : Int) : String :=
  let magnitude := nanos.natAbs
  let whole := toString (magnitude / 1000000000)
  let fraction := (padNat (magnitude % 1000000000) 9).toList
  let kept := (fraction.reverse.dropWhile (· == '0')).reverse
  (if nanos < 0 then "-" else "") ++ whole ++
    (if kept.isEmpty then "" else "." ++ String.ofList kept)

/-- A field's value in a log line. -/
def FieldValue.toLogJson : FieldValue → Json.Value
  | .text value => .string value
  | .int value => .ofInt value
  | .number value => .number value.toText
  | .bool value => .bool value
  | .time value => .string (value.format logTimeLayout)
  | .duration value => .number (secondsLiteral value.nanos)

/-- Fields as a JSON object; a later field hides an earlier one of the same name. -/
def logFieldsJson (fields : List Field) : Json.Value :=
  .object (fields.map fun (k, v) => (k, v.toLogJson))

namespace LogLine

/-- The upper-case name of a level, as console lines give it. -/
def levelLabel (level : LogLevel) : String := level.name.toUpper

/-- A JSON line, without its time and caller. -/
def toJson (line : LogLine) : Json.Value :=
  .object ([("level", .string line.level.name)] ++
    (if line.name.isEmpty then [] else [("logger", .string line.name)]) ++
    [("msg", .string line.message)] ++ line.fields.map fun (k, v) => (k, v.toLogJson))

/-- The parts of a console line after its time, without its caller: the level, the name, the
message and the fields as JSON, the name and fields only when there are any. -/
def consoleParts (line : LogLine) : List Json.Value :=
  [.string (levelLabel line.level)] ++
  (if line.name.isEmpty then [] else [.string line.name]) ++
  [.string line.message] ++
  (if line.fields.isEmpty then [] else [logFieldsJson line.fields])

end LogLine

/-- A call on a logger. -/
inductive LogCall where
  /-- A plain record at a level. -/
  | write (level : LogLevel) (message : String)
  /-- An order event. -/
  | order (event orderId : String) (fields : List Field)
  /-- A trade event. -/
  | trade (event : String) (fields : List Field)
  /-- A replay event. -/
  | replay (event : String) (fields : List Field)
  /-- An error with its context. -/
  | failure (error : String) (fields : List Field)
  /-- Names the logger further, for the calls after it. -/
  | named (part : String)
  /-- Adds context fields, for the calls after it. -/
  | withFields (fields : List Field)
  /-- An alert, to this logger or, when `discarded`, to one that writes nothing. -/
  | alert (alert : Alert) (discarded : Bool)
  deriving Repr

/-- Makes calls on a logger in order, each at `now`: the lines they wrote. -/
def Logger.play (logger : Logger) (now : Instant) : List LogCall → List (LogSink × LogLine)
  | [] => []
  | .named part :: rest => (logger.named part).play now rest
  | .withFields fields :: rest => (logger.withFields fields).play now rest
  | .write level message :: rest => logger.write level message [] ++ logger.play now rest
  | .order event id fields :: rest => logger.logOrder now event id fields ++ logger.play now rest
  | .trade event fields :: rest => logger.logTrade now event fields ++ logger.play now rest
  | .replay event fields :: rest => logger.logReplay now event fields ++ logger.play now rest
  | .failure error fields :: rest => logger.logError now error fields ++ logger.play now rest
  | .alert alert discarded :: rest =>
    (if discarded then Logger.discard else logger).logAlert alert ++ logger.play now rest

end Bourse
