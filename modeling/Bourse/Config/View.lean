import Bourse.Config.Load
import Bourse.Double.Layout
import Bourse.Book.DeskView

/-!
# Settings as JSON

The JSON view of settings names each field as the settings file does. Durations are in
duration form, the session rate in the general double layout, and the replay's delay is shown
beside its milliseconds. The view also gives the symbol's constraints and the replay interval,
each as an error when it cannot be formed.
-/

namespace Bourse

/-- The exchange section as JSON. -/
def ExchangeSection.toJson (ex : ExchangeSection) : Json.Value :=
  .object [("symbol", .string ex.symbol), ("serverID", .string ex.serverId),
    ("clientID", .string ex.clientId), ("listenAddr", .string ex.listenAddr),
    ("useSimulationTime", .bool ex.useSimulationTime), ("strategy", .string ex.strategy),
    ("tickSize", .string ex.tickSize), ("minQty", .ofInt ex.minQty), ("maxQty", .ofInt ex.maxQty),
    ("marketDataBuffer", .ofInt ex.marketDataBuffer), ("tradeLogPath", .string ex.tradeLogPath),
    ("barInterval", .string ex.barInterval.toText), ("barKeep", .ofInt ex.barKeep),
    ("sessionRate", .string (FloatLayout.general.render ex.sessionRate)),
    ("sessionBurst", .ofInt ex.sessionBurst)]

/-- The Redis part of the replay section as JSON. -/
def RedisSection.toJson (redis : RedisSection) : Json.Value :=
  .object [("url", .string redis.url), ("password", .string redis.password),
    ("stream", .string redis.stream), ("pageSize", .ofInt redis.pageSize)]

/-- The replay section as JSON, with its delay. -/
def ReplaySection.toJson (replay : ReplaySection) : Json.Value :=
  .object [("enabled", .bool replay.enabled), ("source", .string (lossyText replay.source)),
    ("csvPath", .string replay.csvPath), ("redis", replay.redis.toJson),
    ("start", .string (lossyText replay.start)),
    ("end", .string (lossyText replay.stop)),
    ("dateTimeFormat", .string replay.dateTimeFormat), ("delayMs", .ofInt replay.delayMs),
    ("delay", .string replay.delay.toText), ("exitOnEnd", .bool replay.exitOnEnd)]

/-- The logging section as JSON. -/
def LogSection.toJson (log : LogSection) : Json.Value :=
  .object [("level", .string log.level),
    ("outputs", .ofOption (fun items => .array (items.map .string)) log.outputs),
    ("output_file", .string log.outputFile), ("error_file", .string log.errorFile),
    ("format", .string log.format)]

/-- The symbol's constraints as JSON, or the reason they cannot be formed. -/
def constraintsJson (ex : ExchangeSection) : Json.Value :=
  match ex.constraints with
  | .ok limits => .object [("tick", .string limits.tickSize.toText),
      ("min", .ofInt64 limits.minQty), ("max", .ofInt64 limits.maxQty)]
  | .error problem => errorJson "error" problem

/-- The replay interval as JSON, or the reason it cannot be read. -/
def intervalJson (replay : ReplaySection) : Json.Value :=
  match replay.interval with
  | (_, some e) => errorJson "error" e.message
  | (interval, none) => .object [("start", .string interval.start.toRfc3339),
      ("end", .string interval.stop.toRfc3339)]

/-- Settings as JSON. -/
def Settings.toJson (settings : Settings) : Json.Value :=
  .object [("exchange", settings.exchange.toJson), ("replay", settings.replay.toJson),
    ("log", settings.log.toJson),
    ("metrics", .object [("namespace", .string settings.metrics.namespaceName),
      ("subsystem", .string settings.metrics.subsystem)]),
    ("alert", .object [("throttleSeconds", .ofInt settings.alert.throttleSeconds)]),
    ("constraints", constraintsJson settings.exchange),
    ("interval", intervalJson settings.replay)]

/-- A settings error as JSON. -/
def SettingsError.toJson (error : SettingsError) : Json.Value := errorJson error.kind error.message

end Bourse
