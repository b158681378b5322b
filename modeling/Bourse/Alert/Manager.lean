import Bourse.Alert.Basic
import Bourse.Event.View

/-!
# Sending alerts

An alert manager sends each alert to every channel it has, unless throttling holds the alert
back. Throttling lets an alert through when nothing of its scope went out before, or when the
last alert of its scope went out at least the throttle interval ago; an interval of zero or less
lets everything through. An alert held back is counted and is not an error.

A channel may refuse an alert. Sending fails only when no channel took the alert and one
refused it; the failure names the last channel that refused.
-/

namespace Bourse

/-- The fields whose values tell alerts of one level and message apart for throttling. -/
def scopeFields : List String := ["symbol", "subscriber"]

/-- The scope of an alert: level, `:`, message, then `|name=value` for each scope field it
has. -/
def Alert.scope (alert : Alert) : String :=
  scopeFields.foldl (fun key name =>
    match alert.fields.lookup name with
    | some value => key ++ "|" ++ name ++ "=" ++ value.toText
    | none => key) (alert.level.name ++ ":" ++ alert.message)

/-- When each scope last let an alert through. -/
structure Throttle where
  /-- The least time between two alerts of one scope. -/
  interval : Duration
  /-- The last time each scope let an alert through. -/
  lastSent : List (String × Instant)
  deriving Repr, Inhabited

namespace Throttle

/-- A throttle that has let nothing through. -/
def new (interval : Duration) : Throttle := ⟨interval, []⟩

/-- Whether an alert of a scope may go out now; if so, the scope's time becomes now. -/
def allow (throttle : Throttle) (now : Instant) (scope : String) : Throttle × Bool :=
  let fresh := match throttle.lastSent.lookup scope with
    | none => true
    | some last => decide (throttle.interval.nanos ≤ (now.since last).nanos)
  if fresh then
    ({ throttle with lastSent := (scope, now) :: throttle.lastSent.filter (·.1 != scope) }, true)
  else (throttle, false)

/-- Forgets every scope. -/
def clear (throttle : Throttle) : Throttle := { throttle with lastSent := [] }

end Throttle

/-- A channel that keeps the alerts it takes, or refuses them while it is set to fail. -/
structure AlertChannel where
  /-- The channel's name. -/
  name : String
  /-- Whether it refuses alerts. -/
  failing : Bool
  /-- The alerts it took, oldest first. -/
  received : Array Alert
  deriving Repr, Inhabited

/-- What a channel says when it refuses an alert. -/
def AlertChannel.refusal : String := "mock error"

/-- A channel that has taken nothing. -/
def AlertChannel.new (name : String) (failing : Bool) : AlertChannel := ⟨name, failing, #[]⟩

/-- Hands an alert to a channel: the refusal, if it refuses. -/
def AlertChannel.send (channel : AlertChannel) (alert : Alert) : AlertChannel × Option String :=
  if channel.failing then (channel, some AlertChannel.refusal)
  else ({ channel with received := channel.received.push alert }, none)

/-- Sends alerts to channels, with throttling. -/
structure AlertManager where
  /-- The channels, in the order they were added. -/
  channels : Array AlertChannel
  throttle : Throttle
  /-- The alerts held back by the throttle. -/
  suppressed : Nat
  /-- The current time. -/
  now : Instant
  deriving Repr, Inhabited

namespace AlertManager

/-- A manager over these channels with this throttle interval. -/
def new (channels : List AlertChannel) (interval : Duration) (now : Instant) : AlertManager :=
  ⟨channels.toArray, Throttle.new interval, 0, now⟩

/-- Hands an alert to each channel in turn: the channels afterwards, how many took it, and the
last refusal. -/
def deliver (alert : Alert) :
    List AlertChannel → Nat → Option String → List AlertChannel × Nat × Option String
  | [], taken, failure => ([], taken, failure)
  | channel :: rest, taken, failure =>
    let (channel, refusal) := channel.send alert
    let (taken, failure) := match refusal with
      | some reason => (taken, some ("channel " ++ channel.name ++ " failed: " ++ reason))
      | none => (taken + 1, failure)
    let (rest, taken, failure) := deliver alert rest taken failure
    (channel :: rest, taken, failure)

/-- Sends an alert; an alert without a time takes the current one. Fails only when no channel
took the alert and some channel refused it. -/
def send (manager : AlertManager) (alert : Alert) : AlertManager × Option String :=
  let alert := if alert.timestamp.isZero then { alert with timestamp := manager.now } else alert
  let (throttle, allowed) := manager.throttle.allow manager.now alert.scope
  let manager := { manager with throttle }
  if !allowed then ({ manager with suppressed := manager.suppressed + 1 }, none)
  else
    let (channels, taken, failure) := deliver alert manager.channels.toList 0 none
    let manager := { manager with channels := channels.toArray }
    if taken == 0 then (manager, failure) else (manager, none)

/-- Sends an alert of level `ERROR`. -/
def sendError (manager : AlertManager) (message : String) (fields : List Field) :
    AlertManager × Option String :=
  manager.send ⟨.error, message, Instant.zero, fields⟩

/-- Sends an alert of level `CRITICAL`. -/
def sendCritical (manager : AlertManager) (message : String) (fields : List Field) :
    AlertManager × Option String :=
  manager.send ⟨.critical, message, Instant.zero, fields⟩

/-- Adds a channel after the others. -/
def addChannel (manager : AlertManager) (channel : AlertChannel) : AlertManager :=
  { manager with channels := manager.channels.push channel }

/-- The names of the channels, in order. -/
def channelNames (manager : AlertManager) : List String :=
  manager.channels.toList.map (·.name)

/-- Sets whether the last channel of a name refuses alerts. -/
def setFailing (manager : AlertManager) (name : String) (failing : Bool) : AlertManager :=
  match manager.channels.toList.reverse.findIdx? (·.name == name) with
  | some back =>
    { manager with
      channels := manager.channels.modify (manager.channels.size - 1 - back)
        fun c => { c with failing } }
  | none => manager

/-- Lets every scope through again. -/
def resetThrottle (manager : AlertManager) : AlertManager :=
  { manager with throttle := manager.throttle.clear }

/-- The manager as JSON after an operation that answered `result`: the answer, the alerts held
back, how many alerts each channel took and the channel names. -/
def stateJson (manager : AlertManager) (result : Json.Value) : Json.Value :=
  .object [("result", result), ("suppressed", .ofNat manager.suppressed),
    ("counts", .object (manager.channels.toList.map fun c => (c.name, .ofNat c.received.size))),
    ("channels", .array (manager.channelNames.map Json.Value.string))]

/-- Every alert the channels took, channel by channel, as JSON. -/
def receivedJson (manager : AlertManager) : Json.Value :=
  .array (manager.channels.toList.flatMap fun c => c.received.toList.map fun alert =>
    .object [("channel", .string c.name), ("level", .string alert.level.name),
      ("message", .string alert.message)])

end AlertManager

end Bourse
