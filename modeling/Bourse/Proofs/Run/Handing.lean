import Bourse.Proofs.Run.Agreement
import Bourse.Proofs.Run.Calm

/-!
# Every subscriber is handed every event

A call on the book runs its operation and then, oldest first, every operation its subscribers
asked for on the way. This module states what the subscribers are handed during such a call,
for subscribers of any behaviour (`Delivery`), when the call returns, that is when no broken
invariant stopped it.

What one operation publishes is `Publishes`: each event together with the book it is shown
with. A placed order is shown as it rests and then matched, each round of matching
(`MatchShows`) showing the aggressor's trade and then the resting order's with the book the
round leaves; an outside trade for a resting order is shown as the book tapes it; a delete shows
the order it took off, or the request itself when nothing rested. An order whose key already
rests, and a trade for an order that does not rest, change nothing and publish nothing.

Handing out (`Delivery.handOut`) is the reference for delivery: each event, in the order
published, goes to every subscription of the book in turn, from the subscribers' state the one
before left, with the book it was shown with; the book queues what each subscriber asks for,
every delete and each add that passes the book's check (`OrderBook.queues`). A subscriber's
ordinary failure changes nothing of this: the others are still handed the event and the later
ones.

Every event is shown with a book that already holds what the event reports
(`OrderBook.Reflects`): looking up the order the event names finds nothing when the event shows
it deleted, and otherwise finds it with the quantities the event shows.

The main statement is `BookM.calls_hand_out_in_order`: a call that returns runs its own
operation and then those its subscribers queued, in the order queued and each once
(`Operations`), and hands every subscriber every event they publish, in that order
(`Delivery.HandsOut`). It rests on one triple per computation of the book, from
`BookM.deliverTo_hands` up to `BookM.perform_hands`, and on the run of the queue
(`BookM.drain_hands`), by induction on its budget. All of it holds for every budget: a call with
budget `budget` runs at most `budget` queued operations after its own, and what waits beyond them
stays queued.
-/

open Std.Do

set_option mvcgen.warning false

namespace Bourse

variable {ρ σ : Type}

section HandingOut

/-- Whether the book queues a request a subscriber makes: every delete, and an add that passes
the book's check; an add it refuses is dropped. -/
def OrderBook.queues (book : OrderBook ρ) : BookRequest → Bool
  | .add event =>
    match book.check event with
    | .ok () => true
    | .error _ => false
  | .delete _ => true

/-- Each event shown, in the order shown, delivered to every subscription in turn, with the book
it was shown with. -/
def handings (subscriptions : List (Subscription ρ)) (shows : List (MarketEvent × OrderBook ρ)) :
    List (Subscription ρ × MarketEvent × OrderBook ρ) :=
  shows.flatMap fun shown => subscriptions.map fun subscription => (subscription, shown)

/-- One delivery handed out: the subscriber handles the event, shown the book, from the
subscribers' state so far, and the book queues what it asks for. -/
def Delivery.handTo (deliver : Delivery ρ σ) (state : σ × List BookRequest)
    (delivery : Subscription ρ × MarketEvent × OrderBook ρ) : σ × List BookRequest :=
  let handled := deliver state.1 delivery.2.2 delivery.1 delivery.2.1
  (handled.1, state.2 ++ handled.2.requests.filter delivery.2.2.queues)

/-- Deliveries handed out one after another: the subscribers' state and the queue they leave. -/
def Delivery.handOut (deliver : Delivery ρ σ) (state : σ × List BookRequest)
    (deliveries : List (Subscription ρ × MarketEvent × OrderBook ρ)) : σ × List BookRequest :=
  deliveries.foldl deliver.handTo state

variable (subscriptions : List (Subscription ρ))

@[simp] theorem handings_nil : handings subscriptions ([] : List (MarketEvent × OrderBook ρ)) = [] :=
  rfl

@[simp] theorem handings_cons (shown : MarketEvent × OrderBook ρ)
    (shows : List (MarketEvent × OrderBook ρ)) :
    handings subscriptions (shown :: shows) =
      subscriptions.map (fun subscription => (subscription, shown)) ++ handings subscriptions shows :=
  List.flatMap_cons

@[simp] theorem handings_append (shows more : List (MarketEvent × OrderBook ρ)) :
    handings subscriptions (shows ++ more) = handings subscriptions shows ++ handings subscriptions more :=
  List.flatMap_append

variable (deliver : Delivery ρ σ)

@[simp] theorem Delivery.handOut_nil (state : σ × List BookRequest) : deliver.handOut state [] = state :=
  rfl

@[simp] theorem Delivery.handOut_cons (state : σ × List BookRequest)
    (delivery : Subscription ρ × MarketEvent × OrderBook ρ)
    (deliveries : List (Subscription ρ × MarketEvent × OrderBook ρ)) :
    deliver.handOut state (delivery :: deliveries) =
      deliver.handOut (deliver.handTo state delivery) deliveries :=
  rfl

@[simp] theorem Delivery.handOut_append (state : σ × List BookRequest)
    (deliveries more : List (Subscription ρ × MarketEvent × OrderBook ρ)) :
    deliver.handOut state (deliveries ++ more) = deliver.handOut (deliver.handOut state deliveries) more :=
  List.foldl_append

/-- Handing out only adds to the queue: what waited before still waits first. -/
theorem Delivery.handOut_queue (audience : σ) (queue : List BookRequest)
    (deliveries : List (Subscription ρ × MarketEvent × OrderBook ρ)) :
    deliver.handOut (audience, queue) deliveries =
      ((deliver.handOut (audience, []) deliveries).1,
        queue ++ (deliver.handOut (audience, []) deliveries).2) := by
  induction deliveries generalizing audience queue with
  | nil => simp
  | cons delivery rest inductionHypothesis =>
    have later := inductionHypothesis (deliver audience delivery.2.2 delivery.1 delivery.2.1).1
    simp only [handOut_cons, handTo, List.nil_append]
    rw [later (queue ++ _), later (List.filter _ _)]
    simp

/-- A request waiting at the front of the queue stays at its front. -/
theorem Delivery.handOut_waiting (audience : σ) (request : BookRequest) (queue : List BookRequest)
    (deliveries : List (Subscription ρ × MarketEvent × OrderBook ρ)) :
    deliver.handOut (audience, request :: queue) deliveries =
      ((deliver.handOut (audience, queue) deliveries).1,
        request :: (deliver.handOut (audience, queue) deliveries).2) := by
  rw [deliver.handOut_queue audience (request :: queue), deliver.handOut_queue audience queue]
  rfl

end HandingOut

section Shown

/-- What a subscriber handed `event` with `book` finds when it looks up the order the event
names: nothing for an event that shows the order deleted, and otherwise the order with the
quantities the event shows. -/
def OrderBook.Reflects (book : OrderBook ρ) (event : MarketEvent) : Prop :=
  if event.header.action = Action.delete then book.lookup event.header.side event.key = none
  else ∃ order, book.lookup event.header.side event.key = some order ∧
    order.header.cumQty = event.header.cumQty ∧
    order.header.remainingQty = event.header.remainingQty

/-- A trade shown with a book whose side of its side code holds its order as the trade shows
it. -/
theorem Trade.Shows.reflects {trade : Trade} {order : MarketEvent} {book : OrderBook ρ}
    (shows : trade.Shows order (book.sideOf trade.header.side)) : book.Reflects trade.toEvent := by
  have named : trade.toEvent.key = order.key := by
    rw [MarketEvent.key, Trade.header_toEvent, shows.reports.key]
    simp [Trade.bookedOn, Header.applyExecution, Header.key, MarketEvent.key]
  unfold OrderBook.Reflects OrderBook.lookup
  rw [Trade.header_toEvent, named, shows.rests]
  by_cases deleted : trade.header.action = Action.delete
  · rw [if_pos deleted, if_pos (shows.deleted.mp deleted)]
  · have remains : ¬trade.header.remainingQty = 0 := fun zero => deleted (shows.deleted.mpr zero)
    rw [if_neg deleted, if_neg remains]
    exact ⟨_, rfl, by simp [shows.reports.cumQty], by simp [shows.reports.remainingQty]⟩

/-- Both trades of a round of matching in a well-formed book are shown with a book that
reflects them: the one the round leaves. -/
theorem OrderBook.WellFormed.round_reflects {book : OrderBook ρ} (wellFormed : book.WellFormed)
    {side : Side} {key : OrderKey} (now : Instant) {aggressor resting : MarketEvent}
    {trade : Trade} (found : (book.sideOf side).find? key = some aggressor)
    (live : 0 < aggressor.header.remainingQty)
    (chosen : book.tradeFor aggressor (book.oppositeOf side).orders = some trade)
    (contra : (book.oppositeOf side).find? trade.contraKey = some resting) :
    let after := book.afterRound side key now aggressor resting trade
    let counter := trade.counterpart resting.header
    after.Reflects (trade.withHeader { trade.header with transactTime := now }).toEvent ∧
      after.Reflects (counter.withHeader { counter.header with transactTime := now }).toEvent := by
  obtain ⟨aggressorShown, restingShown⟩ :=
    wellFormed.round_shows now found live chosen contra
  obtain ⟨restingMember, -, rfl⟩ := wellFormed.matchRound_trade found chosen contra
  -- Each trade carries the side code of its order, which names the side the order rests on.
  have aggressorBuys : aggressor.header.side.isBuy = side.isBuy :=
    ((wellFormed.sideOf side).isBuy_of_mem ((wellFormed.sideOf side).mem_of_find? found)).trans
      (wellFormed.buying_sideOf side)
  have restingBuys : resting.header.side.isBuy = !side.isBuy := by
    rw [(wellFormed.oppositeOf side).isBuy_of_mem restingMember, wellFormed.buying_oppositeOf]
  set after := book.afterRound side key now aggressor resting
    (PriceTime.tradeAgainst aggressor.header resting.header)
  have aggressorSide : after.sideOf side = after.sideOf
      (PriceTime.tradeAgainst aggressor.header resting.header).header.side :=
    (after.sideOf_of_isBuy (by simpa [PriceTime.tradeAgainst, Header.applyExecution]
      using aggressorBuys)).symm
  have restingSide : after.oppositeOf side = after.sideOf
      (Trade.counterpart resting.header (PriceTime.tradeAgainst aggressor.header resting.header)).header.side :=
    (after.sideOf_of_isBuy_not (by simpa [Trade.counterpart, Trade.settle_header,
      Header.applyExecution] using restingBuys)).symm
  rw [aggressorSide] at aggressorShown
  rw [restingSide] at restingShown
  exact ⟨aggressorShown.reflects, restingShown.reflects⟩

end Shown

section Publications

/-- The header an outside trade leaves on the resting order it names: the quantity the book
applies taken off at the price it applies. -/
def Trade.filledOn (trade : Trade) (resting : Header) : Header :=
  resting.applyExecution (trade.appliedQty resting.remainingQty)
    (trade.appliedPrice resting.price)

/-- The trade the book tapes for an outside trade applied to a resting order: the outside
trade's kind, side and key, the order's quantities after the fill, shown deleted when nothing of
it remains, stamped when it has no time of its own, with the quantity and price applied. -/
def Trade.appliedOn (trade : Trade) (now : Instant) (resting : Header) : Trade :=
  let filled := trade.filledOn resting
  ⟨trade.complete,
    { trade.header with
      orderQty := filled.orderQty, cumQty := filled.cumQty,
      remainingQty := filled.remainingQty, avgPrice := filled.avgPrice,
      action := if filled.remainingQty == 0 then Action.delete else Action.change,
      transactTime := if trade.header.transactTime.isZero then now else trade.header.transactTime },
    { trade.execution with
      execQty := trade.appliedQty resting.remainingQty,
      execPrice := trade.appliedPrice resting.price }⟩

/-- The book once an outside trade is applied to the resting order it names: the order filled,
the applied trade on the tape. -/
def OrderBook.applyOutside (book : OrderBook ρ) (now : Instant) (trade : Trade)
    (resting : MarketEvent) : OrderBook ρ :=
  (book.fill trade.header.side false trade.header.key (trade.filledOn resting.header)).record
    (trade.appliedOn now resting.header)

@[simp] theorem OrderBook.subscriptions_applyOutside (book : OrderBook ρ) (now : Instant)
    (trade : Trade) (resting : MarketEvent) :
    (book.applyOutside now trade resting).subscriptions = book.subscriptions := by
  simp [OrderBook.applyOutside]

/-- What matching the order with `key` on `side` publishes, each event with the book it is
shown with, until matching is over: every round publishes the aggressor's trade and then the
resting order's, both stamped with the time and shown with the book the round leaves. -/
inductive MatchShows (side : Side) (key : OrderKey) (now : Instant) :
    OrderBook ρ → List (MarketEvent × OrderBook ρ) → OrderBook ρ → Prop
  | done {book : OrderBook ρ} (finished : MatchDone side key book) : MatchShows side key now book [] book
  | round {book final : OrderBook ρ} {aggressor resting : MarketEvent} {trade : Trade}
      {shows : List (MarketEvent × OrderBook ρ)}
      (found : (book.sideOf side).find? key = some aggressor)
      (live : 0 < aggressor.header.remainingQty)
      (chosen : book.tradeFor aggressor (book.oppositeOf side).orders = some trade)
      (contra : (book.oppositeOf side).find? trade.contraKey = some resting)
      (rest : MatchShows side key now (book.afterRound side key now aggressor resting trade)
        shows final) :
      MatchShows side key now book
        (((trade.withHeader { trade.header with transactTime := now }).toEvent,
            book.afterRound side key now aggressor resting trade) ::
          (((trade.counterpart resting.header).withHeader
              { (trade.counterpart resting.header).header with transactTime := now }).toEvent,
            book.afterRound side key now aggressor resting trade) :: shows)
        final

/-- What one operation publishes when it runs to its end, each event with the book it is shown
with, from the book it starts on to the book it leaves.

- `placed`: an order whose key is free on its side goes on it stamped, is shown as it rests,
  and is matched;
- `duplicate`: an order whose key already rests on its side changes nothing and publishes
  nothing;
- `unknown`: a trade for an order that does not rest changes nothing and publishes nothing;
- `applied`: a trade for a resting order that can take the quantity applied fills it, and the
  trade the book tapes is shown with the book that holds it;
- `taken`: a resting order comes off its side and is shown deleted;
- `missed`: a delete for an order that does not rest shows the request itself deleted. -/
inductive Publishes (now : Instant) :
    BookRequest → OrderBook ρ → List (MarketEvent × OrderBook ρ) → OrderBook ρ → Prop
  | placed {book after : OrderBook ρ} {event : MarketEvent}
      {shows : List (MarketEvent × OrderBook ρ)}
      (order : Trade.ofEvent? event = none)
      (fresh : (book.sideOf event.header.side).contains event.key = false)
      (matched : MatchShows event.header.side event.key now (book.placeOrder now event) shows
        after) :
      Publishes now (.add event) book
        ((event.withHeader (OrderBook.stamp now event.header), book.placeOrder now event) :: shows)
        after
  | duplicate {book : OrderBook ρ} {event : MarketEvent}
      (order : Trade.ofEvent? event = none)
      (resting : (book.sideOf event.header.side).contains event.key = true) :
      Publishes now (.add event) book [] book
  | unknown {book : OrderBook ρ} {event : MarketEvent} {trade : Trade}
      (outside : Trade.ofEvent? event = some trade)
      (missing : (book.sideOf trade.header.side).find? trade.header.key = none) :
      Publishes now (.add event) book [] book
  | applied {book : OrderBook ρ} {event resting : MarketEvent} {trade : Trade}
      (outside : Trade.ofEvent? event = some trade)
      (fillable : book.Fillable trade.header.side false trade.header.key
        (trade.appliedQty resting.header.remainingQty) resting) :
      Publishes now (.add event) book
        [((trade.appliedOn now resting.header).toEvent, book.applyOutside now trade resting)]
        (book.applyOutside now trade resting)
  | taken {book : OrderBook ρ} {event resting : MarketEvent}
      (found : (book.sideOf event.header.side).find? event.key = some resting) :
      Publishes now (.delete event) book
        [(resting.mapHeader fun header => { header with action := Action.delete },
          book.setSide event.header.side ((book.sideOf event.header.side).erase event.key))]
        (book.setSide event.header.side ((book.sideOf event.header.side).erase event.key))
  | missed {book : OrderBook ρ} {event : MarketEvent}
      (missing : (book.sideOf event.header.side).find? event.key = none) :
      Publishes now (.delete event) book
        [(event.mapHeader fun header => { header with action := Action.delete }, book)] book

/-- Operations performed one after another, each to its end on the book the one before left and
admitted by it, with what they published in order. -/
inductive Operations (now : Instant) :
    List BookRequest → OrderBook ρ → List (MarketEvent × OrderBook ρ) → OrderBook ρ → Prop
  | nil (book : OrderBook ρ) : Operations now [] book [] book
  | cons {request : BookRequest} {requests : List BookRequest} {book middle after : OrderBook ρ}
      {shows more : List (MarketEvent × OrderBook ρ)}
      (admits : book.Admits request) (publishes : Publishes now request book shows middle)
      (rest : Operations now requests middle more after) :
      Operations now (request :: requests) book (shows ++ more) after

end Publications

section Effects

variable {now : Instant}

/-- Matching goes through rounds of matching and ends with matching over. -/
theorem MatchShows.rounds {side : Side} {key : OrderKey} {book after : OrderBook ρ}
    {shows : List (MarketEvent × OrderBook ρ)} (matched : MatchShows side key now book shows after) :
    Relation.ReflTransGen (MatchRound side key now) book after ∧ MatchDone side key after := by
  induction matched with
  | done finished => exact ⟨.refl, finished⟩
  | round found live chosen contra _ inductionHypothesis =>
    exact ⟨.head (.traded found live chosen contra) inductionHypothesis.1, inductionHypothesis.2⟩

/-- Matching keeps the subscriptions. -/
theorem MatchShows.subscriptions {side : Side} {key : OrderKey} {book after : OrderBook ρ}
    {shows : List (MarketEvent × OrderBook ρ)} (matched : MatchShows side key now book shows after) :
    after.subscriptions = book.subscriptions := by
  induction matched with
  | done => rfl
  | round _ _ _ _ _ inductionHypothesis => simpa [OrderBook.afterRound] using inductionHypothesis

/-- What an operation publishes, it publishes on its way from the book it starts on to the book
`Performs` says it leaves, run to its end. -/
theorem Publishes.performs {request : BookRequest} {book after : OrderBook ρ}
    {shows : List (MarketEvent × OrderBook ρ)} (publishes : Publishes now request book shows after) :
    Performs now request book after true := by
  cases publishes with
  | placed order fresh matched =>
    exact .placed order fresh matched.rounds.1 fun _ => matched.rounds.2
  | duplicate order resting =>
    exact .unchanged fun other same _ => by cases same; exact resting
  | unknown outside missing =>
    refine .unchanged fun other same isOrder => ?_
    cases same
    exact absurd (outside.symm.trans isOrder) (Option.some_ne_none _)
  | applied outside fillable =>
    exact .settled outside fillable.1 fillable.2.1 fillable.2.2
  | taken found => exact .taken found
  | missed missing => exact .unchanged fun other same _ => BookRequest.noConfusion same

/-- No operation changes who is subscribed. -/
theorem Publishes.subscriptions {request : BookRequest} {book after : OrderBook ρ}
    {shows : List (MarketEvent × OrderBook ρ)} (publishes : Publishes now request book shows after) :
    after.subscriptions = book.subscriptions := by
  cases publishes with
  | placed _ _ matched => simpa using matched.subscriptions
  | applied => simp
  | taken => simp
  | duplicate | unknown | missed => rfl

/-- An order whose key already rests on its side, queued or not, changes nothing and publishes
nothing. -/
theorem Publishes.of_resting {event : MarketEvent} {book after : OrderBook ρ}
    {shows : List (MarketEvent × OrderBook ρ)} (publishes : Publishes now (.add event) book shows after)
    (order : Trade.ofEvent? event = none)
    (resting : (book.sideOf event.header.side).contains event.key = true) :
    shows = [] ∧ after = book := by
  cases publishes with
  | placed _ fresh => exact absurd (fresh.symm.trans resting) Bool.false_ne_true
  | duplicate => exact ⟨rfl, rfl⟩
  | unknown outside | applied outside => exact absurd (outside.symm.trans order) (Option.some_ne_none _)

/-- Operations keep the subscriptions. -/
theorem Operations.subscriptions {requests : List BookRequest} {book after : OrderBook ρ}
    {shows : List (MarketEvent × OrderBook ρ)} (operations : Operations now requests book shows after) :
    after.subscriptions = book.subscriptions := by
  induction operations with
  | nil => rfl
  | cons _ publishes _ inductionHypothesis => exact inductionHypothesis.trans publishes.subscriptions

end Effects

section Reflects

variable {now : Instant}

/-- Showing an event deleted keeps the order it names. -/
@[simp] theorem MarketEvent.key_deleted (event : MarketEvent) :
    (event.mapHeader fun header => { header with action := Action.delete }).key = event.key := by
  simp [MarketEvent.key, Header.key]

/-- An event that shows its order deleted reflects a book where the order is not found. -/
theorem OrderBook.reflects_of_deleted {book : OrderBook ρ} {event : MarketEvent}
    (deleted : event.header.action = Action.delete)
    (gone : book.lookup event.header.side event.key = none) : book.Reflects event := by
  unfold OrderBook.Reflects
  rw [if_pos deleted]
  exact gone

/-- The trade the book tapes for an outside trade shows the order it was applied to. -/
theorem OrderBook.WellFormed.appliedOn_shows {book : OrderBook ρ} (wellFormed : book.WellFormed)
    (now : Instant) {trade : Trade} {resting : MarketEvent}
    (fillable : book.Fillable trade.header.side false trade.header.key
      (trade.appliedQty resting.header.remainingQty) resting) :
    (trade.appliedOn now resting.header).Shows resting
      ((book.applyOutside now trade resting).sideOf trade.header.side) :=
  wellFormed.shows_applied now fillable.1 trade.appliedQty_of_complete fillable

/-- Every event matching publishes in a well-formed book is shown with a book that reflects
it. -/
theorem MatchShows.reflects {side : Side} {key : OrderKey} {book after : OrderBook ρ}
    {shows : List (MarketEvent × OrderBook ρ)} (matched : MatchShows side key now book shows after)
    (wellFormed : book.WellFormed) : ∀ shown ∈ shows, shown.2.Reflects shown.1 := by
  induction matched with
  | done => simp
  | round found live chosen contra _ inductionHypothesis =>
    obtain ⟨aggressorReflects, restingReflects⟩ :=
      wellFormed.round_reflects now found live chosen contra
    have later := inductionHypothesis
      ((MatchRound.traded found live chosen contra).wellFormed wellFormed)
    simp only [List.mem_cons, forall_eq_or_imp]
    exact ⟨aggressorReflects, restingReflects, later⟩

/-- Every event an operation the book admits publishes, from a well-formed book, is shown with a
book that reflects it: the change the event reports is made before it is shown. -/
theorem Publishes.reflects {request : BookRequest} {book after : OrderBook ρ}
    {shows : List (MarketEvent × OrderBook ρ)} (publishes : Publishes now request book shows after)
    (wellFormed : book.WellFormed) (admits : book.Admits request) :
    ∀ shown ∈ shows, shown.2.Reflects shown.1 := by
  cases publishes with
  | @placed _ _ event _ order fresh matched =>
    simp only [List.mem_cons, forall_eq_or_imp]
    refine ⟨?_, matched.reflects (wellFormed.placeOrder now (admits event rfl) order fresh)⟩
    -- The order is shown as it rests, under its own key on its own side.
    have stamped : (OrderBook.stamp now event.header).action ≠ Action.delete := by
      simp [OrderBook.stamp, Action.add, Action.delete]
    have rests : (book.placeOrder now event).lookup event.header.side event.key =
        some (event.withHeader (OrderBook.stamp now event.header)) := by
      simpa [OrderBook.lookup, OrderBook.placeOrder, MarketEvent.key] using
        @BookSide.find?_insert_self (book.sideOf event.header.side)
          (event.withHeader (OrderBook.stamp now event.header))
    unfold OrderBook.Reflects
    rw [if_neg (by simpa using stamped)]
    exact ⟨_, by simpa [MarketEvent.key] using rests, rfl, rfl⟩
  | duplicate | unknown => simp
  | applied outside fillable =>
    simp only [List.mem_singleton, forall_eq]
    exact (wellFormed.appliedOn_shows now fillable).reflects
  | @taken _ event resting found =>
    simp only [List.mem_singleton, forall_eq]
    refine OrderBook.reflects_of_deleted (by simp) ?_
    -- The order taken off rests on the side of the request's code, under the request's key.
    have keyed : resting.key = event.key := (wellFormed.sideOf _).key_of_find? found
    have buys : resting.header.side.isBuy = event.header.side.isBuy :=
      ((wellFormed.sideOf _).isBuy_of_mem ((wellFormed.sideOf _).mem_of_find? found)).trans
        (wellFormed.buying_sideOf _)
    simp only [OrderBook.lookup, MarketEvent.header_mapHeader, MarketEvent.key_deleted]
    rw [OrderBook.sideOf_of_isBuy _ buys, OrderBook.sideOf_setSide, keyed]
    exact BookSide.find?_erase_self _ _
  | missed missing =>
    simp only [List.mem_singleton, forall_eq]
    refine OrderBook.reflects_of_deleted (by simp) ?_
    simpa [OrderBook.lookup, MarketEvent.key_deleted] using missing

/-- Operations from a well-formed book show every event they publish with a book that reflects
it. -/
theorem Operations.reflects {requests : List BookRequest} {book after : OrderBook ρ}
    {shows : List (MarketEvent × OrderBook ρ)} (operations : Operations now requests book shows after)
    (wellFormed : book.WellFormed) : ∀ shown ∈ shows, shown.2.Reflects shown.1 := by
  induction operations with
  | nil => simp
  | cons admits publishes _ inductionHypothesis =>
    intro shown member
    rcases List.mem_append.mp member with first | later
    · exact publishes.reflects wellFormed admits shown first
    · exact inductionHypothesis (publishes.performs.wellFormed wellFormed admits) shown later

/-- What a call hands out, from the book and audience it starts with to the run it returns in:
the operations run are the call's own and then those queued on the way, in the order queued,
each once; each publishes what `Publishes` says, every event shown with a book that reflects
it; and every subscriber of the book the call started on is handed every event in the order
published. What still waits when the call returns was queued last, and is left only when the
call's `budget` of queued operations ran out. -/
def Delivery.HandsOut (deliver : Delivery ρ σ) (budget : Nat) (now : Instant) (current : OrderBook ρ)
    (audience : σ) (first : BookRequest) (after : BookRun ρ σ) : Prop :=
  ∃ ops shows, Operations now ops current shows after.book ∧
    (∀ shown ∈ shows, shown.2.Reflects shown.1) ∧
    after.audience = (deliver.handOut (audience, []) (handings current.subscriptions shows)).1 ∧
    ops ++ after.pending =
      first :: (deliver.handOut (audience, []) (handings current.subscriptions shows)).2 ∧
    (after.pending = [] ∨ ops.length = budget + 1)

end Reflects

namespace BookM

variable (deliver : Delivery ρ σ)

section Delivering

/-- Taking a subscriber's requests queues those the book queues, in order, and changes neither
the book nor the subscribers' state. Stated towards the queue `target` it ends with. -/
theorem takeRequests_target (shown : OrderBook ρ) (audience : σ) (target : List BookRequest)
    (requests : List BookRequest) :
    ⦃fun run => ⌜run.book = shown ∧ run.audience = audience ∧
        run.pending ++ requests.filter shown.queues = target⌝⦄
      (takeRequests requests : BookM ρ σ Unit)
    ⦃post⟨fun _ run => ⌜run.book = shown ∧ run.audience = audience ∧ run.pending = target⌝,
      fun _ _ => ⌜False⌝⟩⦄ := by
  induction requests with
  | nil => mvcgen [takeRequests]; simp_all
  | cons request rest inductionHypothesis =>
    mvcgen [takeRequests, book, enqueue, log, note, inductionHypothesis]
    -- A refused add is dropped; every other request is queued.
    all_goals simp_all +zetaDelta [OrderBook.queues, List.filter_cons]

/-- Delivering an event to one subscriber, while no broken invariant stops it, is handing it
out: the subscribers' state and the queue become those of `Delivery.handTo`, shown the book as
it is, which the delivery leaves alone. -/
theorem deliverTo_hands (shown : OrderBook ρ) (state : σ × List BookRequest)
    (subscription : Subscription ρ) (event : MarketEvent) :
    ⦃fun run => ⌜run.book = shown ∧ (run.audience, run.pending) = state⌝⦄
      deliverTo deliver subscription event
    ⦃post⟨fun _ run => ⌜run.book = shown ∧
        (run.audience, run.pending) = deliver.handTo state (subscription, event, shown)⌝,
      fun _ _ => ⌜True⌝⟩⦄ := by
  obtain ⟨audience, queue⟩ := state
  have requestsSpec := fun requests => takeRequests_target shown
    (deliver audience shown subscription event).1
    (deliver.handTo (audience, queue) (subscription, event, shown)).2 requests
  mvcgen [deliverTo, book, log, note, requestsSpec]
  all_goals simp_all +zetaDelta [Delivery.handTo]

/-- Delivering an event to a list of subscribers, while no broken invariant stops it, hands it
to each in turn, shown the book as it is. -/
theorem deliverAll_hands (shown : OrderBook ρ) (event : MarketEvent)
    (subscriptions : List (Subscription ρ)) (state : σ × List BookRequest) :
    ⦃fun run => ⌜run.book = shown ∧ (run.audience, run.pending) = state⌝⦄
      deliverAll deliver event subscriptions
    ⦃post⟨fun _ run => ⌜run.book = shown ∧ (run.audience, run.pending) =
        deliver.handOut state (subscriptions.map fun subscription => (subscription, event, shown))⌝,
      fun _ _ => ⌜True⌝⟩⦄ := by
  induction subscriptions generalizing state with
  | nil => mvcgen [deliverAll]
  | cons subscription rest inductionHypothesis =>
    -- The rest are handed the event from where the first left the subscribers and the queue.
    have firstSpec := deliverTo_hands deliver shown state subscription event
    have restSpec := inductionHypothesis (deliver.handTo state (subscription, event, shown))
    mvcgen [deliverAll, firstSpec, restSpec]

/-- Publishing an event, while no broken invariant stops it, hands it to every subscription of
the book, in order, shown the book as it is. -/
theorem publish_hands (shown : OrderBook ρ) (event : MarketEvent) (state : σ × List BookRequest) :
    ⦃fun run => ⌜run.book = shown ∧ (run.audience, run.pending) = state⌝⦄
      publish deliver event
    ⦃post⟨fun _ run => ⌜run.book = shown ∧ (run.audience, run.pending) =
        deliver.handOut state (handings shown.subscriptions [(event, shown)])⌝,
      fun _ _ => ⌜True⌝⟩⦄ := by
  have deliverSpec := fun subscriptions =>
    deliverAll_hands deliver shown event subscriptions state
  mvcgen [publish, note, book, deliverSpec]
  all_goals simp_all +zetaDelta

end Delivering

section Operations

/-- Matching an order of a well-formed book, with the fuel `place` gives it, while no broken
invariant stops it, publishes what `MatchShows` says, each event handed to every subscription
with the book the round leaves. -/
theorem matchOrder_hands (now : Instant) (side : Side) (key : OrderKey) (rounds : Nat)
    (current : OrderBook ρ) (state : σ × List BookRequest) :
    ⦃fun run => ⌜run.book = current ∧ current.WellFormed ∧
        ((current.sideOf side).find? key = none ∨ (current.oppositeOf side).size < rounds) ∧
        (run.audience, run.pending) = state⌝⦄
      matchOrder deliver now side key rounds
    ⦃post⟨fun _ run => ⌜∃ shows, MatchShows side key now current shows run.book ∧
        (run.audience, run.pending) = deliver.handOut state (handings current.subscriptions shows)⌝,
      fun _ _ => ⌜True⌝⟩⦄ := by
  induction rounds generalizing current state with
  | zero =>
    mvcgen [matchOrder]
    -- Without fuel the order must already be gone.
    rename_i run pre
    obtain ⟨rfl, -, enough, sameState⟩ := pre
    exact ⟨[], .done (.of_missing (enough.resolve_right (Nat.not_lt_zero _))), sameState⟩
  | succ rounds inductionHypothesis =>
    mvcgen [matchOrder, book]
    · -- The order is gone.
      rename_i run pre gone
      obtain ⟨rfl, -, -, sameState⟩ := pre
      exact ⟨[], .done (.of_missing gone), sameState⟩
    · -- The order has nothing left.
      rename_i run pre aggressor found header spent
      obtain ⟨rfl, -, -, sameState⟩ := pre
      exact ⟨[], .done (.of_found found (.inl (Int64.not_lt.mpr spent))), sameState⟩
    · -- The strategy finds no trade.
      rename_i run pre aggressor found header live opposite tradeOption noTrade
      obtain ⟨rfl, -, -, sameState⟩ := pre
      exact ⟨[], .done (.of_found found (.inr noTrade)), sameState⟩
    · -- A round: both orders are filled and both trades taped, then each is handed out with the
      -- book the round leaves, and matching goes on from it.
      rename_i run pre aggressor found header live opposite tradeOption trade chosen execution
        contraKey resting contra counter stamped stampedCounter
      obtain ⟨rfl, wellFormed, enough, sameState⟩ := pre
      have positive : 0 < aggressor.header.remainingQty := Int64.not_le.mp live
      have round : MatchRound side key now run.book
          (run.book.afterRound side key now aggressor resting trade) :=
        .traded found positive chosen contra
      obtain ⟨fillsAggressor, fillsResting⟩ :=
        wellFormed.round_fillable found positive chosen contra
      have fillAggressor := Triple.and _
        (fillOrder_fills σ wellFormed fillsAggressor execution.execPrice run.pending)
        (fillOrder_audience (· = run.audience) side false key execution.execQty
          execution.execPrice)
      -- The program names the resting order by the fields of the execution.
      have fillsResting : (run.book.fill side false key (aggressor.header.applyExecution
          execution.execQty execution.execPrice)).Fillable side true
          ⟨execution.contraClientId, execution.contraOrderId⟩ execution.execQty resting :=
        fillsResting
      have fillResting := Triple.and _
        (fillOrder_fills σ (fillsAggressor.wellFormed_fill wellFormed _) fillsResting
          execution.execPrice run.pending)
        (fillOrder_audience (· = run.audience) side true
          ⟨execution.contraClientId, execution.contraOrderId⟩ execution.execQty
          execution.execPrice)
      have recordTrade := Triple.and _ (record_spec σ ((run.book.fill side false key
        (aggressor.header.applyExecution execution.execQty execution.execPrice)).fill side true
        ⟨execution.contraClientId, execution.contraOrderId⟩
        (resting.header.applyExecution execution.execQty execution.execPrice)) run.pending stamped)
        (record_audience (· = run.audience) stamped)
      have recordCounter := Triple.and _ (record_spec σ (((run.book.fill side false key
        (aggressor.header.applyExecution execution.execQty execution.execPrice)).fill side true
        ⟨execution.contraClientId, execution.contraOrderId⟩
        (resting.header.applyExecution execution.execQty execution.execPrice)).record stamped)
        run.pending stampedCounter)
        (record_audience (· = run.audience) stampedCounter)
      set after := run.book.afterRound side key now aggressor resting trade
      have sameSubscriptions : after.subscriptions = run.book.subscriptions := by
        simp [after, OrderBook.afterRound]
      have fuelAfter : (after.sideOf side).find? key = none ∨
          (after.oppositeOf side).size < rounds := by
        have bound := enough.resolve_left (by simp [found])
        rcases round.progress wellFormed with gone | shorter
        · exact .inl gone
        · exact .inr (by omega)
      -- Each trade is handed out from where the one before left the subscribers and the queue.
      set tradeHanded := deliver.handOut (run.audience, run.pending)
        (handings after.subscriptions [(stamped.toEvent, after)])
      set counterHanded := deliver.handOut tradeHanded
        (handings after.subscriptions [(stampedCounter.toEvent, after)])
      have publishTrade := publish_hands deliver after stamped.toEvent
        (run.audience, run.pending)
      have publishCounter := publish_hands deliver after stampedCounter.toEvent
        tradeHanded
      have continues := inductionHypothesis after counterHanded
      mvcgen [fillAggressor, fillResting, recordTrade, recordCounter, publishTrade,
        publishCounter, continues]
      · -- The trades are published with the book the round leaves.
        obtain ⟨⟨recordedBook, samePending⟩, sameAudience⟩ := ‹_ ∧ _›
        exact ⟨recordedBook, by rw [sameAudience, samePending]⟩
      · obtain ⟨sameBook, handed⟩ := ‹_ ∧ _›
        exact ⟨sameBook, round.wellFormed wellFormed, fuelAfter, handed⟩
      · -- The round's two trades come first, handed out in the order published.
        rintro ⟨shows, matched, handed⟩
        refine ⟨_ :: _ :: shows, .round found positive chosen contra matched, ?_⟩
        rw [handed, ← sameState, ← sameSubscriptions]
        simp only [counterHanded, tradeHanded, handings_cons, handings_nil, List.append_nil,
          Delivery.handOut_append]
        rfl

/-- Placing an order the book admits on a well-formed book, while no broken invariant stops it,
publishes what `Publishes` says, each event handed to every subscription. -/
theorem place_hands (now : Instant) (event : MarketEvent) (current : OrderBook ρ)
    (state : σ × List BookRequest) :
    ⦃fun run => ⌜run.book = current ∧ current.WellFormed ∧ current.check event = .ok () ∧
        Trade.ofEvent? event = none ∧ (run.audience, run.pending) = state⌝⦄
      place deliver now event
    ⦃post⟨fun _ run => ⌜∃ shows, Publishes now (.add event) current shows run.book ∧
        (run.audience, run.pending) = deliver.handOut state (handings current.subscriptions shows)⌝,
      fun _ _ => ⌜True⌝⟩⦄ := by
  -- The order is published stamped, with the book it rests on.
  have publishSpec := fun (shown : MarketEvent)
      (stamped : shown = event.withHeader (OrderBook.stamp now event.header)) =>
    stamped ▸ publish_hands deliver (current.placeOrder now event)
      (event.withHeader (OrderBook.stamp now event.header)) state
  -- Matching starts where handing out the placed order left the subscribers and the queue.
  have matchSpec := fun side key rounds => matchOrder_hands deliver now side key
    rounds (current.placeOrder now event) (deliver.handOut state
      (handings (current.placeOrder now event).subscriptions
        [(event.withHeader (OrderBook.stamp now event.header), current.placeOrder now event)]))
  mvcgen [place, book, modifyBook, log, note, publishSpec, matchSpec]
  · -- A duplicate key: nothing changes and nothing is published.
    rename_i header stamped order run pre duplicate ignored
    obtain ⟨rfl, -, -, isOrder, sameState⟩ := pre
    exact ⟨[], .duplicate isOrder duplicate, sameState⟩
  · -- The order rests, and is published with the book it is on.
    rename_i header stamped order run pre fresh placed
    obtain ⟨rfl, -, -, -, sameState⟩ := pre
    exact ⟨rfl, sameState⟩
  · -- Matching starts from that book, with one round per resting order and one more.
    rename_i header stamped order run pre fresh placed _ published publishedRun
    obtain ⟨rfl, wellFormed, checked, isOrder, -⟩ := pre
    obtain ⟨sameBook, handed⟩ := publishedRun
    rw [sameBook]
    exact ⟨rfl, wellFormed.placeOrder now checked isOrder (Bool.eq_false_iff.mpr fresh),
      .inr (Nat.lt_succ_self _), handed⟩
  · -- The placed order is shown first, then what matching publishes.
    rename_i header stamped order run pre fresh placed _ published publishedRun _ matched
    obtain ⟨rfl, -, -, isOrder, -⟩ := pre
    rintro ⟨shows, matchedShows, handed⟩
    refine ⟨_ :: shows, .placed isOrder (Bool.eq_false_iff.mpr fresh) matchedShows, ?_⟩
    rw [handed, OrderBook.subscriptions_placeOrder]
    simp

/-- Deleting, while no broken invariant stops it, publishes what `Publishes` says: the order
taken off, or the request itself when nothing rests under its key, handed to every
subscription. -/
theorem remove_hands (now : Instant) (event : MarketEvent) (current : OrderBook ρ)
    (state : σ × List BookRequest) :
    ⦃fun run => ⌜run.book = current ∧ (run.audience, run.pending) = state⌝⦄
      remove deliver event
    ⦃post⟨fun _ run => ⌜∃ shows, Publishes now (.delete event) current shows run.book ∧
        (run.audience, run.pending) = deliver.handOut state (handings current.subscriptions shows)⌝,
      fun _ _ => ⌜True⌝⟩⦄ := by
  have missedSpec := publish_hands deliver current
    (event.mapHeader fun header => { header with action := Action.delete }) state
  mvcgen [remove, book, modifyBook, log, note, missedSpec]
  · -- The order rests under the key: it comes off, and is shown deleted.
    rename_i header run pre removed rest removal _
    obtain ⟨rfl, sameState⟩ := pre
    obtain ⟨found, rfl⟩ := BookSide.remove?_eq_some_iff.mp removal
    have takenSpec := publish_hands deliver
      (run.book.setSide event.header.side ((run.book.sideOf event.header.side).erase event.key))
      (removed.mapHeader fun header => { header with action := Action.delete }) state
    mvcgen [takenSpec]
    intro sameBook handed
    rw [sameBook]
    refine ⟨_, .taken found, ?_⟩
    rw [handed, OrderBook.subscriptions_setSide]
  · -- Nothing rests under the key: the request itself is shown deleted.
    intro sameBook handed
    have missing : (current.sideOf event.header.side).find? event.key = none := by
      obtain ⟨rfl, -⟩ := ‹_ = current ∧ _›
      simpa [BookSide.remove?] using ‹BookSide.remove? _ _ = none›
    rw [sameBook]
    exact ⟨_, .missed missing, handed⟩

/-- Taping and publishing the trade the book applies for an outside trade, once it has filled
the resting order by the quantity `appliedQty` names, publishes what `Publishes` says. -/
theorem tapeApplied_hands (now : Instant) {event : MarketEvent} {trade : Trade}
    (outside : Trade.ofEvent? event = some trade) (current : OrderBook ρ) (audience : σ)
    (queue : List BookRequest) {resting : MarketEvent} {qty : Int64}
    (chosen : qty = trade.appliedQty resting.header.remainingQty)
    (fillable : current.Fillable trade.header.side false trade.header.key qty resting)
    {filled : Header}
    (filledEq : filled = resting.header.applyExecution qty (trade.appliedPrice resting.header.price))
    {applied : Trade}
    (copied : applied = ⟨trade.complete,
      { trade.header with
        orderQty := filled.orderQty, cumQty := filled.cumQty,
        remainingQty := filled.remainingQty, avgPrice := filled.avgPrice,
        action := if filled.remainingQty == 0 then Action.delete else Action.change,
        transactTime := if trade.header.transactTime.isZero then now else trade.header.transactTime },
      { trade.execution with
        execQty := qty, execPrice := trade.appliedPrice resting.header.price }⟩) :
    ⦃fun run => ⌜run.book = current.fill trade.header.side false trade.header.key filled ∧
        run.pending = queue ∧ run.audience = audience⌝⦄
      (record applied >>= fun _ => publish deliver applied.toEvent)
    ⦃post⟨fun _ run => ⌜∃ shows, Publishes now (.add event) current shows run.book ∧
        (run.audience, run.pending) =
          deliver.handOut (audience, queue) (handings current.subscriptions shows)⌝,
      fun _ _ => ⌜True⌝⟩⦄ := by
  -- The trade taped is the one `appliedOn` builds, on the book `applyOutside` leaves.
  subst chosen
  obtain rfl : filled = trade.filledOn resting.header := filledEq
  obtain rfl : applied = trade.appliedOn now resting.header := copied
  have recordSpec := Triple.and _
    (record_spec σ (current.fill trade.header.side false trade.header.key
      (trade.filledOn resting.header)) queue (trade.appliedOn now resting.header))
    (record_audience (· = audience) (trade.appliedOn now resting.header))
  have publishSpec := publish_hands deliver (current.applyOutside now trade resting)
    (trade.appliedOn now resting.header).toEvent (audience, queue)
  mvcgen [recordSpec, publishSpec]
  · obtain ⟨filledBook, samePending, sameAudience⟩ := ‹_ ∧ _›
    exact ⟨⟨filledBook, samePending⟩, sameAudience⟩
  · obtain ⟨⟨recorded, samePending⟩, sameAudience⟩ := ‹(_ ∧ _) ∧ _›
    rw [recorded, samePending, sameAudience]
    exact ⟨rfl, rfl⟩
  · intro recorded handed
    rw [recorded]
    exact ⟨_, .applied outside fillable, by rw [handed, OrderBook.subscriptions_applyOutside]⟩

/-- Applying an outside trade to a well-formed book, while no broken invariant stops it,
publishes what `Publishes` says: nothing for an order that does not rest, and otherwise the
trade the book tapes, handed to every subscription. -/
theorem applyTrade_hands (now : Instant) {event : MarketEvent} {trade : Trade}
    (outside : Trade.ofEvent? event = some trade) (current : OrderBook ρ)
    (wellFormed : current.WellFormed) (audience : σ) (queue : List BookRequest) :
    ⦃fun run => ⌜run.book = current ∧ run.audience = audience ∧ run.pending = queue⌝⦄
      applyTrade deliver now trade
    ⦃post⟨fun _ run => ⌜∃ shows, Publishes now (.add event) current shows run.book ∧
        (run.audience, run.pending) =
          deliver.handOut (audience, queue) (handings current.subscriptions shows)⌝,
      fun _ _ => ⌜True⌝⟩⦄ := by
  have fillSpec := fun (qty : Int64) (price : Decimal) =>
    Triple.and _
      (fillOrder_spec current queue wellFormed trade.header.side false trade.header.key qty price)
      (fillOrder_audience (· = audience) trade.header.side false trade.header.key qty price)
  mvcgen [applyTrade, book, log, note, fillSpec]
  · -- The order the trade names does not rest: nothing changes and nothing is published.
    obtain ⟨rfl, rfl, rfl⟩ := ‹_ = current ∧ _›
    exact ⟨[], .unknown outside ‹_›, rfl⟩
  -- A fill takes all that remains.
  · obtain ⟨rfl, rfl, rfl⟩ := ‹_ = current ∧ _›
    exact ⟨⟨rfl, rfl⟩, rfl⟩
  · rename_i complete _ _ _ _ filledRun fills
    obtain ⟨⟨order, fillable, filledEq, filledBook, samePending⟩, sameAudience⟩ := fills
    obtain ⟨startBook, -, -⟩ := ‹_ = current ∧ _›
    have rests := ‹BookSide.find? _ _ = some _›
    rw [startBook] at rests
    obtain rfl := fillable.eq_of_find rests
    rw [← WP.bind]
    exact tapeApplied_hands deliver now outside current audience queue
      (trade.appliedQty_of_complete complete).symm fillable filledEq rfl filledRun
      ⟨filledBook, samePending, sameAudience⟩
  -- A partial fill whose quantity is out of range takes all that remains.
  · obtain ⟨rfl, rfl, rfl⟩ := ‹_ = current ∧ _›
    exact ⟨⟨rfl, rfl⟩, rfl⟩
  · rename_i partialFill clamped _ _ _ _ _ filledRun fills
    obtain ⟨⟨order, fillable, filledEq, filledBook, samePending⟩, sameAudience⟩ := fills
    obtain ⟨startBook, -, -⟩ := ‹_ = current ∧ _›
    have rests := ‹BookSide.find? _ _ = some _›
    rw [startBook] at rests
    obtain rfl := fillable.eq_of_find rests
    rw [← WP.bind]
    exact tapeApplied_hands deliver now outside current audience queue
      (trade.appliedQty_of_clamped partialFill clamped).symm fillable filledEq rfl filledRun
      ⟨filledBook, samePending, sameAudience⟩
  -- A partial fill within range takes its own quantity.
  · obtain ⟨rfl, rfl, rfl⟩ := ‹_ = current ∧ _›
    exact ⟨⟨rfl, rfl⟩, rfl⟩
  · rename_i partialFill inside _ _ _ _ filledRun fills
    obtain ⟨⟨order, fillable, filledEq, filledBook, samePending⟩, sameAudience⟩ := fills
    obtain ⟨startBook, -, -⟩ := ‹_ = current ∧ _›
    have rests := ‹BookSide.find? _ _ = some _›
    rw [startBook] at rests
    obtain rfl := fillable.eq_of_find rests
    rw [← WP.bind]
    exact tapeApplied_hands deliver now outside current audience queue
      (trade.appliedQty_of_inside partialFill inside).symm fillable filledEq rfl filledRun
      ⟨filledBook, samePending, sameAudience⟩

/-- One operation, on a well-formed book that admits it, publishes what `Publishes` says and
hands each event to every subscriber, queueing what they ask for. -/
theorem perform_hands (now : Instant) (request : BookRequest) (current : OrderBook ρ)
    (wellFormed : current.WellFormed) (admits : current.Admits request)
    (state : σ × List BookRequest) :
    ⦃fun run => ⌜run.book = current ∧ (run.audience, run.pending) = state⌝⦄
      perform deliver now request
    ⦃post⟨fun _ run => ⌜∃ shows, Publishes now request current shows run.book ∧
        (run.audience, run.pending) = deliver.handOut state (handings current.subscriptions shows)⌝,
      fun _ _ => ⌜True⌝⟩⦄ := by
  cases request with
  | add event =>
    cases outside : Trade.ofEvent? event with
    | some trade =>
      obtain ⟨audience, queue⟩ := state
      have tradeSpec := applyTrade_hands deliver now outside current wellFormed audience queue
      simp only [perform, outside]
      mvcgen [tradeSpec]
      rename_i run pre
      obtain ⟨sameBook, sameState⟩ := pre
      simp only [Prod.mk.injEq] at sameState
      exact ⟨sameBook, sameState⟩
    | none =>
      have placeSpec := place_hands deliver now event current state
      simp only [perform, outside]
      mvcgen [placeSpec]
      rename_i run pre
      obtain ⟨sameBook, sameState⟩ := pre
      exact ⟨sameBook, wellFormed, admits event rfl, outside, sameState⟩
  | delete event =>
    have removeSpec := remove_hands deliver now event current state
    simp only [perform]
    mvcgen [removeSpec]

/-- Running the queue, to its end when it returns: the operations run are those that waited,
oldest first, followed by those queued on the way; each publishes what `Publishes` says, and
every subscriber is handed every event in the order published. The queue is empty at the end
unless the budget ran out. -/
theorem drain_hands (now : Instant) (budget : Nat) :
    ∀ run : BookRun ρ σ, run.book.WellFormed → run.book.AdmitsAll (fun _ => True) run.pending →
      Ends (fun finished after => finished = true → ∃ ops shows,
          Operations now ops run.book shows after.book ∧
          (after.audience, ops ++ after.pending) =
            deliver.handOut (run.audience, run.pending) (handings run.book.subscriptions shows) ∧
          (after.pending = [] ∨ ops.length = budget))
        (EStateM.run (drain deliver now budget) run) := by
  have asks : deliver.Asks (fun _ => True) := fun _ _ _ _ _ _ _ => trivial
  induction budget with
  | zero =>
    intro run _ _ _
    exact ⟨[], [], .nil run.book, rfl, .inr rfl⟩
  | succ budget inductionHypothesis =>
    intro run wellFormed admitted
    cases queue : run.pending with
    | nil =>
      -- Nothing waits: the run ends at once.
      have returns : EStateM.run (drain deliver now (budget + 1)) run = .ok () run := by
        simp [drain, queue]
      rw [returns]
      intro _
      exact ⟨[], [], .nil run.book, by simp [queue], .inl queue⟩
    | cons request rest =>
      rw [queue] at admitted
      obtain ⟨⟨admits, -⟩, restAdmitted⟩ := admitted.pop
      have performed := perform_ends asks now request { run with pending := rest } wellFormed
        admits restAdmitted
      have handed : Ends (fun finished after => bif finished then ∃ shows,
            Publishes now request run.book shows after.book ∧ (after.audience, after.pending) =
              deliver.handOut (run.audience, rest) (handings run.book.subscriptions shows)
          else True)
          (EStateM.run (perform deliver now request) { run with pending := rest }) := by
        apply EStateM.of_wp_run_eq rfl
        intro _
        exact perform_hands deliver now request run.book wellFormed admits (run.audience, rest) _
          ⟨rfl, rfl⟩
      simp only [drain, queue, EStateM.run_bind, EStateM.run_get, EStateM.run_modify]
      generalize EStateM.run (perform deliver now request) { run with pending := rest } = result
        at performed handed ⊢
      cases result with
      | ok _ after =>
        -- The operation returned: the rest of the queue runs on from the book it left.
        obtain ⟨performs, afterAdmitted⟩ := performed
        obtain ⟨shown, publishes, delivered⟩ := handed
        have continues := inductionHypothesis after (performs.wellFormed wellFormed admits)
          (afterAdmitted.of_symbol performs.symbol_strategy.1)
        dsimp only
        generalize EStateM.run (drain deliver now budget) after = final at continues ⊢
        cases final with
        | ok _ final =>
          intro _
          obtain ⟨ops, shows, operations, drained, bounded⟩ := continues rfl
          rw [publishes.subscriptions] at drained
          -- The request run first stays ahead of everything its events queue.
          have first : deliver.handOut (run.audience, request :: rest)
              (handings run.book.subscriptions shown) = (after.audience, request :: after.pending) := by
            rw [deliver.handOut_waiting, ← delivered]
          have later : deliver.handOut (after.audience, request :: after.pending)
              (handings run.book.subscriptions shows) =
                (final.audience, request :: (ops ++ final.pending)) := by
            rw [deliver.handOut_waiting, ← drained]
          refine ⟨request :: ops, shown ++ shows, .cons admits publishes operations, ?_, ?_⟩
          · rw [handings_append, Delivery.handOut_append, first, later]
            rfl
          · exact bounded.imp_right fun ran => by simp [ran]
        | error _ final => exact fun stopped => Bool.noConfusion stopped
      | error _ after => exact fun stopped => Bool.noConfusion stopped

/-- One run of the book, started by an operation the book admits, hands out, to its end when
it returns, what `HandsOut` says. -/
theorem run_hands (budget : Nat) (now : Instant) (first : BookRequest) (run : BookRun ρ σ)
    (wellFormed : run.book.WellFormed) (admits : run.book.Admits first) :
    Ends (fun finished after => finished = true →
        deliver.HandsOut budget now run.book run.audience first after)
      (EStateM.run (BookM.run deliver budget now first) run) := by
  have drained := drain_hands deliver now (budget + 1) { run with pending := [first] } wellFormed
    (fun request member => by
      rw [List.mem_singleton.mp member]
      exact ⟨admits, trivial⟩)
  simp only [BookM.run, book, note, EStateM.run_bind, EStateM.run_modify, EStateM.run_get,
    EStateM.run_pure]
  generalize EStateM.run (drain deliver now (budget + 1)) { run with pending := [first] } = result
    at drained ⊢
  cases result with
  | ok _ after =>
    intro _
    obtain ⟨ops, shows, operations, delivered, bounded⟩ := drained rfl
    rw [deliver.handOut_waiting, Prod.mk.injEq] at delivered
    exact ⟨ops, shows, operations, operations.reflects wellFormed, delivered.1, delivered.2, bounded⟩
  | error _ after => exact fun stopped => Bool.noConfusion stopped

end Operations

section Calls

/-- Every call on a well-formed book that returns hands out what `HandsOut` says: an event the
book accepts and a delete each start a run that hands every subscriber of the book every event
its operations publish, whatever subscribers asked for or recovered from on the way, in the
order published and each shown with the book it describes; the operations queued on the way
run after the one before has finished, in the order queued, each once. An event the book refuses
changes nothing. All of this holds whatever the call's budget. -/
theorem calls_hand_out_in_order (budget : Nat) (now : Instant) (run : BookRun ρ σ)
    (wellFormed : run.book.WellFormed) (event : MarketEvent) :
    (∀ after, EStateM.run (add deliver budget now event) run = .ok (.ok ()) after →
      deliver.HandsOut budget now run.book run.audience (.add event) after) ∧
    (∀ refusal after, EStateM.run (add deliver budget now event) run = .ok (.error refusal) after →
      after = run) ∧
    (∀ found after, EStateM.run (delete deliver budget now event) run = .ok found after →
      deliver.HandsOut budget now run.book run.audience (.delete event) after) := by
  refine ⟨?_, ?_, ?_⟩
  · intro after returned
    cases checked : run.book.check event with
    | error refusal =>
      simp [add, book, checked] at returned
    | ok =>
      by_cases duplicate : event.isOrder = true ∧
          (run.book.sideOf event.header.side).contains event.key = true
      · simp [add, book, checked, duplicate] at returned
      · have ran := run_hands deliver budget now (.add event) run wellFormed
          (OrderBook.admits_add checked)
        simp [add, book, checked, duplicate] at returned
        obtain ⟨_, ranTo⟩ := returned
        rw [ranTo] at ran
        exact ran rfl
  · intro refusal after returned
    cases checked : run.book.check event with
    | error refusal =>
      simp [add, book, checked] at returned
      exact returned.2.symm
    | ok =>
      by_cases duplicate : event.isOrder = true ∧
          (run.book.sideOf event.header.side).contains event.key = true
      · simp [add, book, checked, duplicate] at returned
        exact returned.2.symm
      · -- A run that returns returns `ok`.
        simp [add, book, checked, duplicate] at returned
  · intro found after returned
    have ran := run_hands deliver budget now (.delete event) run wellFormed
      (run.book.admits_delete event)
    simp [delete, book] at returned
    obtain ⟨⟨_, ranTo⟩, -⟩ := returned
    rw [ranTo] at ran
    exact ran rfl

end Calls

end BookM

/-- The sample offer, offered with the program's budget to an empty book with quiet subscribers,
rests: the call returns and hands out what `HandsOut` says. -/
theorem resting_offer_handed_out :
    quietRun.book.WellFormed ∧
      ∃ after, EStateM.run (BookM.add quietDelivery queueLimit Instant.zero restingOffer)
          quietRun = .ok (.ok ()) after ∧
        quietDelivery.HandsOut queueLimit Instant.zero quietRun.book quietRun.audience
          (.add restingOffer) after := by
  have wellFormed : quietRun.book.WellFormed := OrderBook.WellFormed.empty "ACME" .priceTime
  obtain ⟨after, returned⟩ : ∃ after, EStateM.run (BookM.add quietDelivery queueLimit
      Instant.zero restingOffer) quietRun = .ok (.ok ()) after := ⟨_, rfl⟩
  exact ⟨wellFormed, after, returned, (BookM.calls_hand_out_in_order quietDelivery queueLimit
    Instant.zero quietRun wellFormed restingOffer).1 after returned⟩

end Bourse
