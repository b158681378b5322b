import Bourse.Event.Basic

/-!
# Publishing book events

A publisher fans the book's events out to subscribers, each with a bounded queue of its own
(at least one event long). Publishing never waits: an event that finds a subscriber's queue full
is dropped for that subscriber and counted. A subscriber that unsubscribes, or every subscriber
when the publisher closes, has its queue closed: what is queued can still be read, and then the
queue reports that it is closed. A subscription made after the publisher closed is closed from
the start.

A market data stream subscribes to a publisher and forwards its events until the stream is
cancelled or its queue is closed; cancellation wins over waiting events.
-/

namespace Bourse

/-- A subscriber's queue of events. -/
structure EventQueue where
  /-- The most events it holds. -/
  capacity : Nat
  /-- The events waiting, oldest first. -/
  waiting : List MarketEvent
  /-- Whether the queue is closed. -/
  closed : Bool
  deriving Repr, Inhabited

/-- A publisher of book events. -/
structure Publisher where
  /-- Every queue handed out, by the number of its subscription. -/
  queues : Array EventQueue
  /-- The subscriptions still served, in the order they were made. -/
  served : List Nat
  /-- The events dropped because a queue was full. -/
  dropped : Nat
  /-- Whether the publisher is closed. -/
  closed : Bool
  deriving Repr, Inhabited

namespace Publisher

/-- A publisher with no subscribers. -/
def new : Publisher := ⟨#[], [], 0, false⟩

/-- Changes the queue of a subscription. -/
def modifyQueue (publisher : Publisher) (number : Nat) (change : EventQueue → EventQueue) :
    Publisher :=
  { publisher with queues := publisher.queues.modify number change }

/-- Subscribes with a queue of `size` events (at least one); gives the subscription's number. -/
def subscribe (publisher : Publisher) (size : Int) : Publisher × Nat :=
  let number := publisher.queues.size
  let queue : EventQueue := ⟨max size.toNat 1, [], publisher.closed⟩
  let served := if publisher.closed then publisher.served else publisher.served ++ [number]
  ({ publisher with queues := publisher.queues.push queue, served }, number)

/-- Ends a subscription and closes its queue; a subscription no longer served is left alone. -/
def unsubscribe (publisher : Publisher) (number : Nat) : Publisher :=
  if publisher.served.contains number then
    let publisher := publisher.modifyQueue number fun q => { q with closed := true }
    { publisher with served := publisher.served.filter (· != number) }
  else publisher

/-- Offers an event to one queue: it waits there, or is dropped when the queue is full. -/
def offer (event : MarketEvent) (publisher : Publisher) (number : Nat) : Publisher :=
  match publisher.queues[number]? with
  | some queue =>
    if queue.waiting.length < queue.capacity then
      publisher.modifyQueue number fun q => { q with waiting := q.waiting ++ [event] }
    else { publisher with dropped := publisher.dropped + 1 }
  | none => publisher

/-- Publishes an event to every subscription served. -/
def publish (publisher : Publisher) (event : MarketEvent) : Publisher :=
  publisher.served.foldl (offer event) publisher

/-- Closes the publisher and every queue it serves. -/
def close (publisher : Publisher) : Publisher :=
  if publisher.closed then publisher
  else
    let publisher := publisher.served.foldl (fun p n => p.modifyQueue n fun q => { q with closed := true })
      publisher
    { publisher with served := [], closed := true }

/-- Reads what a subscription's queue holds without waiting; says whether the queue is closed
once it is empty. -/
def drain (publisher : Publisher) (number : Nat) : Publisher × List MarketEvent × Bool :=
  match publisher.queues[number]? with
  | some queue => (publisher.modifyQueue number fun q => { q with waiting := [] }, queue.waiting,
      queue.closed)
  | none => (publisher, [], false)

/-- Runs a market data stream over the publisher with queues of `size` events: gives the
events forwarded, and the cancellation when the stream was cancelled. -/
def stream (publisher : Publisher) (size : Int) (cancelled : Bool) :
    Publisher × List MarketEvent × Option String :=
  let (publisher, number) := publisher.subscribe size
  if cancelled then (publisher.unsubscribe number, [], some "context canceled")
  else
    let (publisher, events, _) := publisher.drain number
    (publisher.unsubscribe number, events, none)

end Publisher

end Bourse
