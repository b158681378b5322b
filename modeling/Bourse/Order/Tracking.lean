import Bourse.Order.View

/-!
# Tracking orders step by step

A client's order tracker worked through a list of steps: accepting new orders, which the
tracker numbers `ord-1`, `ord-2`, … in the order it accepts them, replacing them, applying the
book's events to them, forgetting them, and questions about them, all at a clock that a step
may set. Each step reports what it gave together with the number of orders then open.
-/

namespace Bourse

/-- A step of work on an order tracker. -/
inductive TrackerStep where
  /-- Accepts a new order under the next exchange id. -/
  | accept (event : MarketEvent)
  /-- Replaces an open order by a new one. -/
  | replace (original : String) (event : MarketEvent)
  /-- Applies the book's event, moving the order to a status, by default the event's own. -/
  | apply (event : MarketEvent) (target : Option OrderStatus)
  /-- Forgets an open order. -/
  | restore (clientOrderId : String)
  /-- Asks for an open order. -/
  | get (clientOrderId : String)
  /-- Asks whether an order can be cancelled. -/
  | canCancel (clientOrderId : String)
  /-- Sets the clock. -/
  | setClock (moment : Instant)
  deriving Repr

/-- What a step on an order tracker gave. -/
inductive TrackerAnswer where
  /-- The order a step worked on, or the refusal with the order as it stands. -/
  | order (result : Except (TrackerError × TrackedOrder) TrackedOrder)
  /-- The step was done. -/
  | done
  /-- The open order asked for, if any. -/
  | found (order : Option TrackedOrder)
  /-- Whether the order can be cancelled, and whether the tracker knows it. -/
  | cancellable (ok known : Bool)
  deriving Repr

/-- An order tracker at work: the tracker, its clock and the number of orders accepted. -/
structure TrackerRun where
  tracker : Tracker
  /-- The clock. -/
  now : Instant
  /-- The number of orders accepted so far. -/
  issued : Nat
  deriving Repr

namespace TrackerRun

/-- An accepted or replaced order, or the refusal with no order. -/
def settle (run : TrackerRun) (accepted : Bool) :
    Except TrackerError (Tracker × TrackedOrder) → TrackerRun × TrackerAnswer
  | .ok (tracker, order) =>
    ({ run with tracker, issued := if accepted then run.issued + 1 else run.issued }, .order (.ok order))
  | .error e => (run, .order (.error (e, TrackedOrder.empty)))

/-- Takes one step. -/
def step (run : TrackerRun) : TrackerStep → TrackerRun × TrackerAnswer
  | .accept event =>
    run.settle true (run.tracker.accept ("ord-" ++ toString (run.issued + 1)) event run.now)
  | .replace original event => run.settle false (run.tracker.replace original event run.now)
  | .apply event target =>
    let (tracker, result) := run.tracker.apply event (target.getD (OrderStatus.ofEvent event)) run.now
    ({ run with tracker }, .order result)
  | .restore id => ({ run with tracker := run.tracker.restore id }, .done)
  | .get id => (run, .found (run.tracker.get? id))
  | .canCancel id =>
    let (ok, known) := run.tracker.canCancel id
    (run, .cancellable ok known)
  | .setClock moment => ({ run with now := moment }, .done)

/-- Takes steps in order; each answer comes with the number of orders then open. -/
def steps (run : TrackerRun) : List TrackerStep → List (TrackerAnswer × Nat)
  | [] => []
  | next :: rest =>
    let (run, answer) := run.step next
    (answer, run.tracker.openCount) :: run.steps rest

end TrackerRun

/-- What a step gave, as JSON. -/
def TrackerAnswer.toJson : TrackerAnswer → Json.Value
  | .order (.ok tracked) => .object [("order", tracked.toJson)]
  | .order (.error (e, tracked)) => .object [("error", e.toJson), ("order", tracked.toJson)]
  | .done => .string "ok"
  | .found tracked => .object [("order", Json.Value.ofOption TrackedOrder.toJson tracked)]
  | .cancellable ok known => .object [("ok", .bool ok), ("known", .bool known)]

/-- The answers of a tracker's steps from an empty tracker with its clock at `now`, as JSON. -/
def trackSteps (now : Instant) (steps : List TrackerStep) : Json.Value :=
  .array ((TrackerRun.steps ⟨Tracker.empty, now, 0⟩ steps).map fun (answer, count) =>
    .object [("result", answer.toJson), ("open", .ofNat count)])

end Bourse
