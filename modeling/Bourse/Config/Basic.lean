import Bourse.Time.Instant

/-!
# Settings

The settings of an exchange come in sections: the exchange itself (its symbol, identities,
listening address, price and quantity limits, market data, bars and session rates), the replay
of archived events (from a CSV file or a Redis stream, over an interval of time), logging,
metrics and alerts. Each field has a default, so a settings file need only give what differs.

Integer fields hold signed 64-bit values.
-/

namespace Bourse

/-- The exchange section. -/
structure ExchangeSection where
  /-- The symbol traded. -/
  symbol : String
  /-- The client identity of replayed orders. -/
  serverId : String
  /-- The client identity of sessions that do not name one. -/
  clientId : String
  /-- The address the server listens on. -/
  listenAddr : String
  /-- Whether times come from the replay's clock. -/
  useSimulationTime : Bool
  /-- The matching strategy. -/
  strategy : String
  /-- The tick size as written; empty for none. -/
  tickSize : String
  /-- The least quantity of an order. -/
  minQty : Int
  /-- The greatest quantity of an order; zero for no bound. -/
  maxQty : Int
  /-- The room for market data updates. -/
  marketDataBuffer : Int
  /-- The trade log's path; empty for none. -/
  tradeLogPath : String
  /-- The span of a bar. -/
  barInterval : Duration
  /-- How many bars are kept. -/
  barKeep : Int
  /-- The orders a session may send per second. -/
  sessionRate : Float
  /-- The orders a session may send at once. -/
  sessionBurst : Int
  deriving Repr, BEq

/-- The Redis stream a replay may read from: the server's address and password, the stream's key,
and how many entries one page reads. -/
structure RedisSection where
  url : String
  password : String
  stream : String
  pageSize : Int
  deriving Repr, BEq

/-- The replay section. -/
structure ReplaySection where
  /-- Whether archived events are replayed. -/
  enabled : Bool
  /-- Where they come from: `csv` or `redis`. Like the ends of the interval, it is kept as the
  bytes the settings gave, which a settings file's `!!binary` value lets be any bytes. -/
  source : List UInt8
  /-- The CSV file. -/
  csvPath : String
  /-- The Redis stream. -/
  redis : RedisSection
  /-- The start of the interval replayed, in the date-time format. -/
  start : List UInt8
  /-- The end of the interval replayed, in the date-time format. -/
  stop : List UInt8
  /-- The layout of dates and times. -/
  dateTimeFormat : String
  /-- Milliseconds of waiting per simulated second. -/
  delayMs : Int
  /-- Whether the program ends when the replay does. -/
  exitOnEnd : Bool
  deriving Repr, BEq

/-- The logging section. -/
structure LogSection where
  /-- The least level written. -/
  level : String
  /-- Where logs go (`stdout`, `file`); `none` when cleared. -/
  outputs : Option (List String)
  /-- The log file. -/
  outputFile : String
  /-- The file that gets errors only. -/
  errorFile : String
  /-- `json` or `console`. -/
  format : String
  deriving Repr, BEq

/-- The metrics section. -/
structure MetricsSection where
  /-- The namespace of metric names. -/
  namespaceName : String
  /-- The subsystem of metric names. -/
  subsystem : String
  deriving Repr, BEq

/-- The alert section. -/
structure AlertSection where
  /-- Seconds during which a repeated alert is held back. -/
  throttleSeconds : Int
  deriving Repr, BEq

/-- All settings. -/
structure Settings where
  /-- The exchange section. -/
  exchange : ExchangeSection
  /-- The replay section. -/
  replay : ReplaySection
  /-- The logging section. -/
  log : LogSection
  /-- The metrics section. -/
  metrics : MetricsSection
  /-- The alert section. -/
  alert : AlertSection
  deriving Repr

namespace Settings

/-- The settings before any file or variable changes them. -/
def defaults : Settings where
  exchange :=
    { symbol := "", serverId := "exchange", clientId := "client", listenAddr := ":8080",
      useSimulationTime := false, strategy := "price_time", tickSize := "", minQty := 0,
      maxQty := 0, marketDataBuffer := 1024, tradeLogPath := "", barInterval := Duration.minute,
      barKeep := 1440, sessionRate := 0, sessionBurst := 0 }
  replay :=
    { enabled := false, source := "csv".toUTF8.toList, csvPath := "",
      redis := { url := "redis://localhost:6379", password := "", stream := "", pageSize := 500 },
      start := [], stop := [], dateTimeFormat := "2006-01-02 15:04:05", delayMs := 1000,
      exitOnEnd := false }
  log :=
    { level := "info", outputs := some ["stdout"], outputFile := "", errorFile := "",
      format := "json" }
  metrics := { namespaceName := "exsim", subsystem := "exchange" }
  alert := { throttleSeconds := 60 }

end Settings

end Bourse
