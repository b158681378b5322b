import Bourse.Book.Basic

/-!
# Scripted subscribers

A scripted subscriber reacts to the events it is shown with one fixed action, for the events
that match its filters (kind, order id, client; an absent filter matches anything), at most a
given number of times. It can fail, ordinarily or reporting a broken invariant; ask the book to
add or delete an event, or to delete the very event it was shown; or read the book, looking up
the order the event names and the best prices. Each time it acts it records what it did.
-/

namespace Bourse

/-- What a scripted subscriber does. -/
inductive ScriptAction where
  /-- Fails with the text `reactor NAME`. -/
  | fail
  /-- Fails reporting a broken invariant. -/
  | breakInvariant
  /-- Asks the book to add an event. -/
  | add (event : MarketEvent)
  /-- Asks the book to delete an event. -/
  | delete (event : MarketEvent)
  /-- Asks the book to delete the event it was shown. -/
  | deleteShown
  /-- Looks up the order the event names, with the best prices. -/
  | lookup
  deriving Repr

/-- The name of an action. -/
def ScriptAction.name : ScriptAction → String
  | .fail => "panic"
  | .breakInvariant => "panic_invariant"
  | .add _ => "add"
  | .delete _ => "delete"
  | .deleteShown => "delete_self"
  | .lookup => "lookup"

/-- A scripted subscriber. -/
structure Script where
  name : String
  /-- The kind of event it reacts to, if it is particular. -/
  kind : Option EventKind
  /-- The order id it reacts to, if it is particular. -/
  orderId : Option String
  /-- The client it reacts to, if it is particular. -/
  client : Option String
  /-- What it does. -/
  action : ScriptAction
  /-- How many more times it acts. -/
  times : Nat
  deriving Repr

/-- What a scripted subscriber did, for the record. -/
structure ScriptRecord where
  /-- The subscriber's name. -/
  subscriber : String
  /-- The action's name. -/
  action : String
  /-- For a look-up: the order found, the best bid and offer, and the book's symbol. -/
  lookup : Option (Option MarketEvent × Decimal × Decimal × String)
  deriving Repr

namespace Script

/-- Whether the event passes the subscriber's filters. -/
def accepts (script : Script) (event : MarketEvent) : Bool :=
  (script.kind.all (· == event.kind)) && (script.orderId.all (· == event.header.clientOrderId)) &&
    (script.client.all (· == event.header.clientId))

/-- Shows an event to the subscriber: the subscriber afterwards, what it did, and its reaction
for the book. It acts only on matching events and while it has times left. -/
def react {ρ : Type} (script : Script) (book : OrderBook ρ) (event : MarketEvent) :
    Script × Option ScriptRecord × Reaction :=
  if script.times == 0 || !script.accepts event then (script, none, Reaction.none)
  else
    let next := { script with times := script.times - 1 }
    let record (lookup : Option (Option MarketEvent × Decimal × Decimal × String)) : ScriptRecord :=
      ⟨script.name, script.action.name, lookup⟩
    match script.action with
    | .fail => (next, some (record none), ⟨[], some (.recovered ("reactor " ++ script.name))⟩)
    | .breakInvariant =>
      (next, some (record none), ⟨[], some (.invariant (invariantMessage ("reactor " ++ script.name)))⟩)
    | .add added => (next, some (record none), ⟨[.add added], none⟩)
    | .delete deleted => (next, some (record none), ⟨[.delete deleted], none⟩)
    | .deleteShown => (next, some (record none), ⟨[.delete event], none⟩)
    | .lookup =>
      let found := book.lookup event.header.side event.key
      (next, some (record (some (found, book.bestBid, book.bestOffer, book.symbol))), Reaction.none)

end Script

end Bourse
