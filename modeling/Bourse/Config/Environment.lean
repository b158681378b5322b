import Bourse.Config.Basic
import Bourse.Text.Integer
import Bourse.Double.Read
import Bourse.Time.DurationText

/-!
# Settings from the environment

Every field can be set by an environment variable named `EXSIM_`, the section's name
(`EXCHANGE_`, `REPLAY_`, `REPLAY_REDIS_`, `LOG_`, `METRICS_`, `ALERT_`) and the field's
name in capitals with underscores between words. A variable that is unset or empty changes
nothing.

Texts are taken as they are; a list of texts is split at each comma. Truth values are `1`, `t`,
`T`, `TRUE`, `true`, `True` and their opposites with `0` and `f`. Integers are decimal, within
32 bits for fields of the plain integer type and 64 bits for the others; doubles are read as
double literals; durations as durations. Every variable that cannot be read gives an error
naming the field and its type; all of them are reported together, in the order of the fields.
-/

namespace Bourse

/-- The variables of a process: names with values, a later one hiding an earlier of the same
name. -/
abbrev Environment := List (String × String)

/-- The value of a variable, if it is set. -/
def Environment.lookup (env : Environment) (name : String) : Option String :=
  (env.reverse.find? (·.1 == name)).map (·.2)

/-- The name every settings variable starts with. -/
def environmentPrefix : String := "EXSIM_"

/-- A truth value as written in a variable. -/
def readTruth (text : String) : Except String Bool :=
  if ["1", "t", "T", "TRUE", "true", "True"].contains text then .ok true
  else if ["0", "f", "F", "FALSE", "false", "False"].contains text then .ok false
  else .error ("strconv.ParseBool: parsing " ++ quoteText text ++ ": invalid syntax")

/-- A field that a variable can set. -/
structure Override where
  /-- The variable's name after the common start. -/
  name : String
  /-- The field's name, as errors give it. -/
  field : String
  /-- The field's type, as errors give it. -/
  typeName : String
  /-- Sets the field from the variable's text, or says why the text does not fit. -/
  apply : String → Settings → Except String Settings

namespace Override

/-- A text field. -/
def text (name field : String) (write : Settings → String → Settings) : Override :=
  ⟨name, field, "string", fun value s => .ok (write s value)⟩

/-- A truth value field. -/
def truth (name field : String) (write : Settings → Bool → Settings) : Override :=
  ⟨name, field, "bool", fun value s => (write s ·) <$> readTruth value⟩

/-- An integer field of `bits` bits, of the named type. -/
def integer (name field typeName : String) (bits : Nat) (write : Settings → Int → Settings) :
    Override :=
  ⟨name, field, typeName, fun value s =>
    match readSigned false bits value with
    | .ok n => .ok (write s n)
    | .error e => .error e.message⟩

/-- A double field. -/
def double (name field : String) (write : Settings → Float → Settings) : Override :=
  ⟨name, field, "float64", fun value s =>
    match readFloat value with
    | .ok x => .ok (write s x)
    | .error e => .error e.message⟩

/-- A duration field. -/
def duration (name field : String) (write : Settings → Duration → Settings) : Override :=
  ⟨name, field, "time.Duration", fun value s =>
    match Duration.ofText? value with
    | .ok span => .ok (write s span)
    | .error e => .error ("unable to parse duration: " ++ e.message)⟩

/-- A list of texts, split at commas. -/
def textList (name field : String) (write : Settings → List String → Settings) : Override :=
  ⟨name, field, "[]string", fun value s => .ok (write s (value.splitOn ","))⟩

end Override

/-- The fields variables can set, in order. -/
def overrides : List Override :=
  [.text "EXCHANGE_SYMBOL" "Symbol" fun s v => { s with exchange.symbol := v },
   .text "EXCHANGE_SERVER_ID" "ServerID" fun s v => { s with exchange.serverId := v },
   .text "EXCHANGE_CLIENT_ID" "ClientID" fun s v => { s with exchange.clientId := v },
   .text "EXCHANGE_LISTEN_ADDR" "ListenAddr" fun s v => { s with exchange.listenAddr := v },
   .truth "EXCHANGE_USE_SIMULATION_TIME" "UseSimulationTime"
     fun s v => { s with exchange.useSimulationTime := v },
   .text "EXCHANGE_STRATEGY" "Strategy" fun s v => { s with exchange.strategy := v },
   .text "EXCHANGE_TICK_SIZE" "TickSize" fun s v => { s with exchange.tickSize := v },
   .integer "EXCHANGE_MIN_QTY" "MinQty" "int64" 64 fun s v => { s with exchange.minQty := v },
   .integer "EXCHANGE_MAX_QTY" "MaxQty" "int64" 64 fun s v => { s with exchange.maxQty := v },
   .integer "EXCHANGE_MARKET_DATA_BUFFER" "MarketDataBuffer" "int" 32
     fun s v => { s with exchange.marketDataBuffer := v },
   .text "EXCHANGE_TRADE_LOG_PATH" "TradeLogPath" fun s v => { s with exchange.tradeLogPath := v },
   .duration "EXCHANGE_BAR_INTERVAL" "BarInterval" fun s v => { s with exchange.barInterval := v },
   .integer "EXCHANGE_BAR_KEEP" "BarKeep" "int" 32 fun s v => { s with exchange.barKeep := v },
   .double "EXCHANGE_SESSION_RATE" "SessionRate" fun s v => { s with exchange.sessionRate := v },
   .integer "EXCHANGE_SESSION_BURST" "SessionBurst" "int" 32
     fun s v => { s with exchange.sessionBurst := v },
   .truth "REPLAY_ENABLED" "Enabled" fun s v => { s with replay.enabled := v },
   .text "REPLAY_SOURCE" "Source" fun s v => { s with replay.source := v.toUTF8.toList },
   .text "REPLAY_CSV_PATH" "CSVPath" fun s v => { s with replay.csvPath := v },
   .text "REPLAY_REDIS_URL" "URL" fun s v => { s with replay.redis.url := v },
   .text "REPLAY_REDIS_PASSWORD" "Password" fun s v => { s with replay.redis.password := v },
   .text "REPLAY_REDIS_STREAM" "Stream" fun s v => { s with replay.redis.stream := v },
   .integer "REPLAY_REDIS_PAGE_SIZE" "PageSize" "int64" 64
     fun s v => { s with replay.redis.pageSize := v },
   .text "REPLAY_START" "Start" fun s v => { s with replay.start := v.toUTF8.toList },
   .text "REPLAY_END" "End" fun s v => { s with replay.stop := v.toUTF8.toList },
   .text "REPLAY_DATE_TIME_FORMAT" "DateTimeFormat" fun s v => { s with replay.dateTimeFormat := v },
   .integer "REPLAY_DELAY_MS" "DelayMs" "int" 32 fun s v => { s with replay.delayMs := v },
   .truth "REPLAY_EXIT_ON_END" "ExitOnEnd" fun s v => { s with replay.exitOnEnd := v },
   .text "LOG_LEVEL" "Level" fun s v => { s with log.level := v },
   .textList "LOG_OUTPUTS" "Outputs" fun s v => { s with log.outputs := some v },
   .text "LOG_OUTPUT_FILE" "OutputFile" fun s v => { s with log.outputFile := v },
   .text "LOG_ERROR_FILE" "ErrorFile" fun s v => { s with log.errorFile := v },
   .text "LOG_FORMAT" "Format" fun s v => { s with log.format := v },
   .text "METRICS_NAMESPACE" "Namespace" fun s v => { s with metrics.namespaceName := v },
   .text "METRICS_SUBSYSTEM" "Subsystem" fun s v => { s with metrics.subsystem := v },
   .integer "ALERT_THROTTLE_SECONDS" "ThrottleSeconds" "int" 32
     fun s v => { s with alert.throttleSeconds := v }]

/-- The names of the variables that can set a field, in the order of the fields. -/
def environmentNames : List String := overrides.map (environmentPrefix ++ ·.name)

/-- Applies the variables of an environment to settings. Every field whose variable is set
and not empty is set from it; the errors of those that cannot be read are reported together. -/
def Settings.applyEnvironment (settings : Settings) (env : Environment) : Except String Settings :=
  let step (acc : Settings × List String) (o : Override) : Settings × List String :=
    match env.lookup (environmentPrefix ++ o.name) with
    | none => acc
    | some "" => acc
    | some value =>
      match o.apply value acc.1 with
      | .ok next => (next, acc.2)
      | .error problem =>
        (acc.1, acc.2 ++ ["parse error on field " ++ quoteText o.field ++ " of type " ++
          quoteText o.typeName ++ ": " ++ problem])
  let (result, errors) := overrides.foldl step (settings, [])
  if errors.isEmpty then .ok result else .error ("env: " ++ "; ".intercalate errors)

end Bourse
