import Bourse.Book.Publisher
import Bourse.Json.Value

/-!
# A publisher step by step

A publisher worked through a list of steps: subscriptions, events published, queues drained,
subscriptions ended and the publisher closed. Each step reports what it gave together with the
number of events dropped so far, since drops are what a slow subscriber costs.
-/

namespace Bourse

/-- A step of work on a publisher. -/
inductive FanoutStep where
  /-- Subscribes with a queue of a size. -/
  | subscribe (size : Int)
  /-- Publishes an event. -/
  | publish (event : MarketEvent)
  /-- Drains the queue of a subscription. -/
  | drain (number : Nat)
  /-- Ends a subscription. -/
  | unsubscribe (number : Nat)
  /-- Closes the publisher. -/
  | close
  deriving Repr

/-- What a step on a publisher gave. -/
inductive FanoutAnswer where
  /-- The number of a new subscription. -/
  | subscribed (number : Nat)
  /-- The step was done. -/
  | done
  /-- The events a queue held, and whether it is closed. -/
  | drained (events : List MarketEvent) (closed : Bool)
  deriving Repr

namespace Publisher

/-- Takes one step. -/
def step (publisher : Publisher) : FanoutStep → Publisher × FanoutAnswer
  | .subscribe size =>
    let (publisher, number) := publisher.subscribe size
    (publisher, .subscribed number)
  | .publish event => (publisher.publish event, .done)
  | .drain number =>
    let (publisher, events, closed) := publisher.drain number
    (publisher, .drained events closed)
  | .unsubscribe number => (publisher.unsubscribe number, .done)
  | .close => (publisher.close, .done)

/-- Takes steps in order; each answer comes with the number of events dropped by then. -/
def steps (publisher : Publisher) : List FanoutStep → List (FanoutAnswer × Nat)
  | [] => []
  | next :: rest =>
    let (publisher, answer) := publisher.step next
    (answer, publisher.dropped) :: publisher.steps rest

end Publisher

/-- What a step gave, as JSON: a drained queue shows its events by client order id. -/
def FanoutAnswer.toJson : FanoutAnswer → Json.Value
  | .subscribed number => .ofNat number
  | .done => .string "ok"
  | .drained events closed =>
    .object [("ids", .array (events.map fun e => .string e.header.clientOrderId)),
      ("closed", .bool closed)]

/-- The answers of a new publisher's steps, as JSON. -/
def fanoutSteps (steps : List FanoutStep) : Json.Value :=
  .array ((Publisher.new.steps steps).map fun (answer, dropped) =>
    .object [("result", answer.toJson), ("dropped", .ofNat dropped)])

end Bourse
