import Bourse.Config.Basic
import Bourse.Yaml.Decode

/-!
# Settings files

A settings file is a YAML mapping from section names (`exchange`, `replay`, `log`, `metrics`,
`alert`) to mappings of field names. The replay section holds a `redis` mapping of its own.
Field names are as written in the tables below; keys that name no field are passed over.

Integer fields take integers and doubles; the bar interval takes a duration written as text
(`1m`, `1h30m`); truth values take `true` and `false` and the words for yes and no; the
session rate takes any number; the log outputs take a sequence of texts.
-/

namespace Bourse

open Yaml

/-- Decodes a signed 64-bit integer field of the named integer type. -/
def integerDecoder (typeName : String) : Decoder Int := scalarDecoder typeName readInteger none

/-- Decodes a duration field. -/
def durationDecoder : Decoder Duration := scalarDecoder "time.Duration" readDuration none

/-- Decodes a truth value field. -/
def boolDecoder : Decoder Bool := scalarDecoder "bool" readBool none

/-- Decodes a double field. -/
def doubleDecoder : Decoder Float := scalarDecoder "float64" readDouble none

/-- The fields of the exchange section. -/
def exchangeFields : List (RecordField ExchangeSection) :=
  [.of "symbol" decodeText (·.symbol) fun s v => { s with symbol := v },
   .of "serverID" decodeText (·.serverId) fun s v => { s with serverId := v },
   .of "clientID" decodeText (·.clientId) fun s v => { s with clientId := v },
   .of "listenAddr" decodeText (·.listenAddr) fun s v => { s with listenAddr := v },
   .of "useSimulationTime" boolDecoder (·.useSimulationTime)
     fun s v => { s with useSimulationTime := v },
   .of "strategy" decodeText (·.strategy) fun s v => { s with strategy := v },
   .of "tickSize" decodeText (·.tickSize) fun s v => { s with tickSize := v },
   .of "minQty" (integerDecoder "int64") (·.minQty) fun s v => { s with minQty := v },
   .of "maxQty" (integerDecoder "int64") (·.maxQty) fun s v => { s with maxQty := v },
   .of "marketDataBuffer" (integerDecoder "int") (·.marketDataBuffer)
     fun s v => { s with marketDataBuffer := v },
   .of "tradeLogPath" decodeText (·.tradeLogPath) fun s v => { s with tradeLogPath := v },
   .of "barInterval" durationDecoder (·.barInterval) fun s v => { s with barInterval := v },
   .of "barKeep" (integerDecoder "int") (·.barKeep) fun s v => { s with barKeep := v },
   .of "sessionRate" doubleDecoder (·.sessionRate) fun s v => { s with sessionRate := v },
   .of "sessionBurst" (integerDecoder "int") (·.sessionBurst) fun s v => { s with sessionBurst := v }]

/-- The fields of the Redis part of the replay section. -/
def redisFields : List (RecordField RedisSection) :=
  [.of "url" decodeText (·.url) fun s v => { s with url := v },
   .of "password" decodeText (·.password) fun s v => { s with password := v },
   .of "stream" decodeText (·.stream) fun s v => { s with stream := v },
   .of "pageSize" (integerDecoder "int64") (·.pageSize) fun s v => { s with pageSize := v }]

/-- The fields of the replay section. -/
def replayFields : List (RecordField ReplaySection) :=
  [.of "enabled" boolDecoder (·.enabled) fun s v => { s with enabled := v },
   .of "source" decodeBytes (·.source) fun s v => { s with source := v },
   .of "csvPath" decodeText (·.csvPath) fun s v => { s with csvPath := v },
   .of "redis" (decodeRecord "config.RedisConfig" redisFields) (·.redis)
     fun s v => { s with redis := v },
   .of "start" decodeBytes (·.start) fun s v => { s with start := v },
   .of "end" decodeBytes (·.stop) fun s v => { s with stop := v },
   .of "dateTimeFormat" decodeText (·.dateTimeFormat) fun s v => { s with dateTimeFormat := v },
   .of "delayMs" (integerDecoder "int") (·.delayMs) fun s v => { s with delayMs := v },
   .of "exitOnEnd" boolDecoder (·.exitOnEnd) fun s v => { s with exitOnEnd := v }]

/-- The fields of the logging section. -/
def logFields : List (RecordField LogSection) :=
  [.of "level" decodeText (·.level) fun s v => { s with level := v },
   .of "outputs" decodeTextList (·.outputs) fun s v => { s with outputs := v },
   .of "output_file" decodeText (·.outputFile) fun s v => { s with outputFile := v },
   .of "error_file" decodeText (·.errorFile) fun s v => { s with errorFile := v },
   .of "format" decodeText (·.format) fun s v => { s with format := v }]

/-- The fields of the metrics section. -/
def metricsFields : List (RecordField MetricsSection) :=
  [.of "namespace" decodeText (·.namespaceName) fun s v => { s with namespaceName := v },
   .of "subsystem" decodeText (·.subsystem) fun s v => { s with subsystem := v }]

/-- The fields of the alert section. -/
def alertFields : List (RecordField AlertSection) :=
  [.of "throttleSeconds" (integerDecoder "int") (·.throttleSeconds)
     fun s v => { s with throttleSeconds := v }]

/-- The sections of a settings file. -/
def settingsFields : List (RecordField Settings) :=
  [.of "exchange" (decodeRecord "config.ExchangeConfig" exchangeFields) (·.exchange)
     fun s v => { s with exchange := v },
   .of "replay" (decodeRecord "config.ReplayConfig" replayFields) (·.replay)
     fun s v => { s with replay := v },
   .of "log" (decodeRecord "logger.Config" logFields) (·.log) fun s v => { s with log := v },
   .of "metrics" (decodeRecord "monitor.Config" metricsFields) (·.metrics)
     fun s v => { s with metrics := v },
   .of "alert" (decodeRecord "alert.Config" alertFields) (·.alert) fun s v => { s with alert := v }]

/-- Reads a settings file over the given settings. -/
def Settings.readFile (text : String) (base : Settings) : Except String Settings :=
  decodeDocument (decodeRecord "config.AppConfig" settingsFields) text base

end Bourse
