import Bourse.Proofs.Book.History
import Bourse.Book.Run

/-!
# Calls on a book and the runs they reach

A client works a book through four calls (`BookCall`): offering an event (`BookM.add`),
deleting an order (`BookM.delete`), and subscribing or unsubscribing. `Reachable` collects the
runs a book reaches from empty through any sequence of calls, with any subscribers, any times,
any events and any budgets, together with the history of placements the calls made. A call that a
subscriber stopped still leaves the book where it stopped, and later calls go on from there.
The parameter `admits` can narrow the calls considered: to those that return
(`BookCall.Returns`), or to those that offer only orders.

The history is a ghost: `drainHistory` follows `BookM.drain` step for step and records the
placement of each operation it takes from the queue, computed from the book the operation runs
on, so that it is the history of the run and nothing else.
-/

namespace Bourse

variable {ρ σ : Type}

/-- A call a client makes on a book. An add or a delete starts a run, which takes at most
`budget` of the operations queued on the way after its own. -/
inductive BookCall (ρ : Type) where
  /-- Offers an event at a time. -/
  | add (budget : Nat) (now : Instant) (event : MarketEvent)
  /-- Deletes the order an event names, at a time. -/
  | delete (budget : Nat) (now : Instant) (event : MarketEvent)
  /-- Subscribes a subscriber. -/
  | subscribe (name : String) (role : ρ)
  /-- Removes the subscription with a number. -/
  | unsubscribe (id : Nat)

namespace BookCall

/-- What a call runs, its answer dropped. -/
def exec (deliver : Delivery ρ σ) : BookCall ρ → BookM ρ σ Unit
  | .add budget now event => do
    let _ ← BookM.add deliver budget now event
  | .delete budget now event => do
    let _ ← BookM.delete deliver budget now event
  | .subscribe name role => BookM.modifyBook fun book => (book.subscribe name role).1
  | .unsubscribe id => BookM.modifyBook fun book => book.unsubscribe id

/-- The call returns, rather than being stopped by a broken invariant. -/
def Returns (deliver : Delivery ρ σ) (call : BookCall ρ) (run : BookRun ρ σ) : Prop :=
  ∃ after, EStateM.run (call.exec deliver) run = .ok () after

/-- The call offers no trade: what it adds, if anything, is an order. -/
def OffersOrders : BookCall ρ → Prop
  | .add _ _ event => event.isOrder = true
  | _ => True

end BookCall

/-- The run a computation leaves, whether it returned or was stopped. -/
def BookRun.after {α : Type} (run : BookRun ρ σ) (computation : BookM ρ σ α) : BookRun ρ σ :=
  match EStateM.run computation run with
  | .ok _ after => after
  | .error _ after => after

/-- The placements a run of the queue makes, newest first before `history`: `BookM.drain`
followed step for step, each placement read off the book its operation runs on. -/
def drainHistory (deliver : Delivery ρ σ) (now : Instant) :
    Nat → BookRun ρ σ → List Placement → List Placement
  | 0, _, history => history
  | budget + 1, run, history =>
    match run.pending with
    | [] => history
    | request :: rest =>
      let next := { run with pending := rest }
      let history := placeAfter now next.book request history
      match EStateM.run (BookM.perform deliver now request) next with
      | .ok _ after => drainHistory deliver now budget after history
      | .error _ _ => history

/-- The placements a call makes: those of the run it starts, when it starts one. -/
def BookCall.history (deliver : Delivery ρ σ) :
    BookCall ρ → BookRun ρ σ → List Placement → List Placement
  | .add budget now event, run, history =>
    match run.book.check event with
    | .error _ => history
    | .ok () =>
      if event.isOrder && (run.book.sideOf event.header.side).contains event.key then history
      else drainHistory deliver now (budget + 1) { run with pending := [.add event] } history
  | .delete budget now event, run, history =>
    drainHistory deliver now (budget + 1) { run with pending := [.delete event] } history
  | .subscribe _ _, _, history => history
  | .unsubscribe _, _, history => history

/-- The runs a book of a symbol reaches from empty through calls that `admits` lets through,
with the history of its placements. -/
inductive Reachable (deliver : Delivery ρ σ) (symbol : String) (strategy : ExecutionStrategy)
    (admits : BookCall ρ → BookRun ρ σ → Prop) : BookRun ρ σ → List Placement → Prop
  | start (audience : σ) :
      Reachable deliver symbol strategy admits ⟨OrderBook.empty symbol strategy, audience, [], #[]⟩ []
  | call {run : BookRun ρ σ} {history : List Placement} (call : BookCall ρ)
      (reached : Reachable deliver symbol strategy admits run history) (admitted : admits call run) :
      Reachable deliver symbol strategy admits (run.after (call.exec deliver))
        (call.history deliver run history)

end Bourse
