import Bourse.Alert.Manager
import Bourse.Book.DeskView

/-!
# Dispatching alerts step by step

An alert manager worked through a list of steps: alerts sent, at a level of their own or as
errors and critical alerts, the throttle reset, channels added and channels made to refuse or
take alerts again. Each step reports the manager's state afterwards: for a send, the failure
if no channel took the alert; for the other steps, `ok`.
-/

namespace Bourse

/-- A step of work on an alert manager. -/
inductive AlertStep where
  /-- Sends an alert. -/
  | send (alert : Alert)
  /-- Sends an error alert. -/
  | sendError (message : String) (fields : List Field)
  /-- Sends a critical alert. -/
  | sendCritical (message : String) (fields : List Field)
  /-- Lets every scope through again. -/
  | resetThrottle
  /-- Adds a channel. -/
  | addChannel (channel : AlertChannel)
  /-- Sets whether a channel refuses alerts. -/
  | setFailing (name : String) (failing : Bool)
  deriving Repr

/-- What a step on an alert manager gave. -/
inductive AlertAnswer where
  /-- An alert was sent, or failed as said. -/
  | sent (failure : Option String)
  /-- The step was done. -/
  | done
  deriving Repr, DecidableEq

namespace AlertManager

/-- Takes one step. -/
def step (manager : AlertManager) : AlertStep → AlertManager × AlertAnswer
  | .send alert => let (manager, failure) := manager.send alert; (manager, .sent failure)
  | .sendError message fields =>
    let (manager, failure) := manager.sendError message fields
    (manager, .sent failure)
  | .sendCritical message fields =>
    let (manager, failure) := manager.sendCritical message fields
    (manager, .sent failure)
  | .resetThrottle => (manager.resetThrottle, .done)
  | .addChannel channel => (manager.addChannel channel, .done)
  | .setFailing name failing => (manager.setFailing name failing, .done)

/-- What a step gave, as JSON. -/
def answerJson : AlertAnswer → Json.Value
  | .sent none => .null
  | .sent (some failure) => errorJson "error" failure
  | .done => .string "ok"

/-- Takes steps in order: the manager at the end, and its state as JSON after each step. -/
def steps (manager : AlertManager) : List AlertStep → AlertManager × List Json.Value
  | [] => (manager, [])
  | next :: rest =>
    let (manager, answer) := manager.step next
    let state := manager.stateJson (answerJson answer)
    let (manager, states) := manager.steps rest
    (manager, state :: states)

end AlertManager

/-- The states of a manager after each of its steps, and every alert the channels took. -/
def dispatchAlerts (manager : AlertManager) (steps : List AlertStep) : List (String × Json.Value) :=
  let (manager, states) := manager.steps steps
  [("steps", .array states), ("received", manager.receivedJson)]

end Bourse
