import Bourse.Config.File
import Bourse.Config.Environment
import Bourse.Order.Constraints
import Bourse.Replay.Interval
import Bourse.Replay.Simulator
import Bourse.Decimal.Text

/-!
# Loading and checking settings

Loading starts from the defaults, reads the settings file over them, applies the environment
and checks the result. The first step that fails gives the error.

The check requires a symbol, a server identity and a listening address; bounds, buffer, bar
and session settings that are not negative, with the least quantity no more than the greatest
when there is one; and a tick size, if given, that is a decimal and not negative. A replay that
is enabled needs its source (a CSV path, or a Redis address and stream), a delay of at least
100 ms per simulated second and an interval whose ends read in the date-time format, in order.
-/

namespace Bourse

/-- Why settings could not be loaded. -/
inductive SettingsError where
  /-- The file could not be read. -/
  | unreadable (path : String)
  /-- The file is not valid YAML for settings. -/
  | malformed (problem : String)
  /-- An environment variable could not be read. -/
  | environment (problem : String)
  /-- The settings break a rule. -/
  | invalid (problem : String)
  deriving Repr, DecidableEq

namespace SettingsError

/-- The message of a settings error. -/
def message : SettingsError → String
  | .unreadable path => "read config: open " ++ path ++ ": no such file or directory"
  | .malformed problem => "parse yaml: " ++ problem
  | .environment problem => "parse env overrides: " ++ problem
  | .invalid problem => problem

/-- The kind of a settings error: broken rules have a kind of their own. -/
def kind : SettingsError → String
  | .invalid _ => "config.ErrInvalid"
  | _ => "error"

end SettingsError

/-- The replay's delay per simulated second: its milliseconds as a signed 64-bit count of
nanoseconds, wrapping around. -/
def ReplaySection.delay (replay : ReplaySection) : Duration :=
  ⟨(Int64.ofInt (replay.delayMs * 1000000)).toInt⟩

/-- The replay's interval, read in its date-time format. -/
def ReplaySection.interval (replay : ReplaySection) : ReplayInterval × Option IntervalError :=
  ReplayInterval.read replay.dateTimeFormat replay.start replay.stop

/-- The constraints of the exchange's symbol; no tick size gives a zero tick. -/
def ExchangeSection.constraints (exchange : ExchangeSection) : Except String SymbolConstraints :=
  let bounds : SymbolConstraints :=
    ⟨Decimal.zero, Int64.ofInt exchange.minQty, Int64.ofInt exchange.maxQty⟩
  if exchange.tickSize.isEmpty then .ok bounds
  else
    match Decimal.ofText? exchange.tickSize with
    | .ok tick => .ok { bounds with tickSize := tick }
    | .error e => .error ("exchange.tickSize: " ++ e.message)

/-- Checks the settings against the rules, giving the first broken one. -/
def Settings.validate (settings : Settings) : Except String Unit := do
  let ex := settings.exchange
  if ex.symbol.isEmpty then throw "exchange.symbol is required"
  if ex.serverId.isEmpty then throw "exchange.serverID is required"
  if ex.listenAddr.isEmpty then throw "exchange.listenAddr is required"
  if ex.minQty < 0 || ex.maxQty < 0 then throw "exchange qty bounds must be >= 0"
  if ex.maxQty > 0 && ex.minQty > ex.maxQty then throw "exchange.minQty must be <= maxQty"
  if ex.marketDataBuffer < 0 then throw "exchange.marketDataBuffer must be >= 0"
  if ex.barInterval.nanos < 0 || ex.barKeep < 0 then
    throw "exchange bar interval/keep must be >= 0"
  if ex.sessionRate < 0 || ex.sessionBurst < 0 then
    throw "exchange session rate/burst must be >= 0"
  let limits ← ex.constraints
  if limits.tickSize.isNegative then throw "exchange.tickSize must be > 0"
  let r := settings.replay
  if !r.enabled then return
  if r.source == "csv".toUTF8.toList then
    if r.csvPath.isEmpty then throw "replay.csvPath is required for csv source"
  else if r.source == "redis".toUTF8.toList then
    if r.redis.url.isEmpty || r.redis.stream.isEmpty then
      throw "replay.redis.url/stream is required for redis source"
  else throw ("replay.source " ++ quoteBytes r.source ++ " must be csv or redis")
  if r.delay.nanos < minimumDelay.nanos then
    throw ("replay.delayMs must be >= " ++ toString (minimumDelay.nanos / 1000000))
  match r.interval.2 with
  | some e => throw ("replay interval: " ++ e.message)
  | none => return

/-- Loads settings from a file's contents (`none` when the file does not exist) and the
environment. -/
def Settings.load (path : String) (contents : Option String) (env : Environment) :
    Except SettingsError Settings := do
  let text ← match contents with
    | some text => pure text
    | none => throw (.unreadable path)
  let fromFile ← (Settings.readFile text Settings.defaults).mapError .malformed
  let settings ← (fromFile.applyEnvironment env).mapError .environment
  settings.validate.mapError .invalid
  return settings

/-- The sections that differ between two settings and so need a restart: the replay's delay
alone takes effect at once. A double that is not a number differs from itself. -/
def Settings.restartSections (before after : Settings) : List String :=
  let quiet (r : ReplaySection) : ReplaySection := { r with delayMs := 0 }
  (if before.exchange == after.exchange then [] else ["exchange"]) ++
  (if quiet before.replay == quiet after.replay then [] else ["replay"]) ++
  (if before.log == after.log then [] else ["log"]) ++
  (if before.metrics == after.metrics then [] else ["metrics"]) ++
  (if before.alert == after.alert then [] else ["alert"])

end Bourse
