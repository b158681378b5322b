import Bourse.Proofs.Run.Conservation

/-!
# What the book shows its subscribers

Every change the book makes is followed by a publication that reports it: a placed order as it
rests, a fill by the trade that went on the tape, a deleted order as it left, and a delete that
found nothing by the request itself. `Publication` names these moves, from the book before the
change to the book after it, together with the event shown for it.

A subscriber can keep a picture of the book that publications bring up to date. `Sees` states
what the subscribers' state knows of a book, and a delivery `Watches` it when every publication
delivered to all subscribers, in their order, carries a picture of the book before the move to
one of the book after it. The subscribers are shown the book as it stands when the event is
delivered, which may already be further along: matching fills both orders and tapes both trades
before it publishes the first one.

Subscribers that never report a broken invariant (`Delivery.Calm`) never stop the book, and
publishing to them leaves their state exactly the fold of their deliveries
(`BookM.deliverAll_calm`); with a delivery that watches `Sees`, a publication carries `Sees` from
the book before the move to the book after it (`BookM.publish_calm`).
-/

open Std.Do

set_option mvcgen.warning false

namespace Bourse

variable {ρ σ : Type}

section Subscriptions

variable (book : OrderBook ρ) (side : Side) (orders : BookSide)

@[simp] theorem OrderBook.subscriptions_setSide :
    (book.setSide side orders).subscriptions = book.subscriptions := by
  unfold OrderBook.setSide
  split <;> rfl

@[simp] theorem OrderBook.subscriptions_setOpposite :
    (book.setOpposite side orders).subscriptions = book.subscriptions := by
  unfold OrderBook.setOpposite
  split <;> rfl

@[simp] theorem OrderBook.subscriptions_record (trade : Trade) :
    (book.record trade).subscriptions = book.subscriptions := rfl

@[simp] theorem OrderBook.subscriptions_fill (opposite : Bool) (key : OrderKey) (filled : Header) :
    (book.fill side opposite key filled).subscriptions = book.subscriptions := by
  cases opposite <;> simp [OrderBook.fill, OrderBook.store]

@[simp] theorem OrderBook.subscriptions_placeOrder (now : Instant) (order : MarketEvent) :
    (book.placeOrder now order).subscriptions = book.subscriptions := by
  simp [OrderBook.placeOrder]

end Subscriptions

/-- Putting a trade on the tape and filling an order commute: one touches only the tape, the
other only the sides. -/
theorem OrderBook.fill_record (book : OrderBook ρ) (trade : Trade) (side : Side) (opposite : Bool)
    (key : OrderKey) (filled : Header) :
    (book.record trade).fill side opposite key filled =
      (book.fill side opposite key filled).record trade := by
  cases opposite <;> cases buys : side.isBuy <;>
    simp [OrderBook.fill, OrderBook.store, OrderBook.pick, OrderBook.record, OrderBook.setSide,
      OrderBook.setOpposite, OrderBook.sideOf, OrderBook.oppositeOf, buys]

/-- The side orders of a side code rest on depends only on whether the code buys. -/
theorem OrderBook.sideOf_of_isBuy (book : OrderBook ρ) {side other : Side}
    (same : other.isBuy = side.isBuy) : book.sideOf other = book.sideOf side := by
  simp [OrderBook.sideOf, same]

/-- A code of the other direction names the opposite side. -/
theorem OrderBook.sideOf_of_isBuy_not (book : OrderBook ρ) {side other : Side}
    (reversed : other.isBuy = !side.isBuy) : book.sideOf other = book.oppositeOf side := by
  cases buys : side.isBuy <;> simp [OrderBook.sideOf, OrderBook.oppositeOf, reversed, buys]

/-- Filling an order on the side of a code is filling it on the side of any code of the same
direction. -/
theorem OrderBook.fill_of_isBuy (book : OrderBook ρ) {side other : Side}
    (same : other.isBuy = side.isBuy) (key : OrderKey) (filled : Header) :
    book.fill other false key filled = book.fill side false key filled := by
  simp [OrderBook.fill, OrderBook.store, OrderBook.pick, OrderBook.setSide, OrderBook.sideOf, same]

/-- Filling an order on the side of a code of the other direction is filling it on the opposite
side. -/
theorem OrderBook.fill_of_isBuy_not (book : OrderBook ρ) {side other : Side}
    (reversed : other.isBuy = !side.isBuy) (key : OrderKey) (filled : Header) :
    book.fill other false key filled = book.fill side true key filled := by
  cases buys : side.isBuy <;>
    simp [OrderBook.fill, OrderBook.store, OrderBook.pick, OrderBook.setSide,
      OrderBook.setOpposite, OrderBook.sideOf, OrderBook.oppositeOf, reversed, buys]

/-- A trade reports an order filled to `filled`: it names the order, carries its new quantities
and average price, and is a fill only when nothing of the order remains. -/
structure Trade.Reports (trade : Trade) (filled : Header) : Prop where
  /-- The order it names. -/
  key : trade.header.key = filled.key
  orderQty : trade.header.orderQty = filled.orderQty
  cumQty : trade.header.cumQty = filled.cumQty
  remainingQty : trade.header.remainingQty = filled.remainingQty
  avgPrice : trade.header.avgPrice = filled.avgPrice
  /-- A fill leaves nothing. -/
  complete : trade.complete = true → filled.remainingQty = 0

/-- A settled trade, stamped with a time, reports the order it settles. -/
theorem Trade.reports_settle (filled : Header) (execution : Execution) (now : Instant) :
    ((Trade.settle filled execution).withHeader
      { (Trade.settle filled execution).header with transactTime := now }).Reports filled := by
  unfold Trade.settle
  split
  · rename_i exhausted
    exact ⟨rfl, rfl, rfl, rfl, rfl, fun _ => by simpa using exhausted⟩
  · exact ⟨rfl, rfl, rfl, rfl, rfl, nofun⟩

/-- The aggressor's trade of a round, stamped, reports the aggressor filled by its quantity at
its price. -/
theorem Trade.reports_tradeAgainst (aggressor resting : Header) (now : Instant) :
    ((PriceTime.tradeAgainst aggressor resting).withHeader
      { (PriceTime.tradeAgainst aggressor resting).header with transactTime := now }).Reports
      (aggressor.applyExecution (PriceTime.tradeAgainst aggressor resting).execution.execQty
        (PriceTime.tradeAgainst aggressor resting).execution.execPrice) :=
  ⟨rfl, rfl, rfl, rfl, rfl,
    fun complete => by simpa [PriceTime.tradeAgainst, Trade.withHeader] using complete⟩

/-- What the book shows of one move: it went from `before` to `after`, and `event` is the
event it publishes for the move.

- `placed`: an order that `allow` lets through, whose key does not rest on its side, goes on,
  stamped, and is shown as it rests;
- `traded`: the order resting under a trade's key, on the side of its side code, whose
  quantities add up, is filled by a positive quantity within what it has left; the trade
  reports the fill, goes on the tape and is shown;
- `taken`: the order resting under a delete's key comes off and is shown deleted;
- `missed`: a delete that `allow` lets through finds nothing, and the request itself is shown
  deleted. -/
inductive Publication (allow : BookRequest → Prop) :
    OrderBook ρ → MarketEvent → OrderBook ρ → Prop
  | placed {book : OrderBook ρ} {event : MarketEvent} {now : Instant}
      (allowed : allow (.add event)) (order : Trade.ofEvent? event = none)
      (fresh : (book.sideOf event.header.side).contains event.key = false) :
      Publication allow book (event.withHeader (OrderBook.stamp now event.header))
        (book.placeOrder now event)
  | traded {book : OrderBook ρ} {qty : Int64} {price : Decimal} {order : MarketEvent}
      {trade : Trade}
      (fillable : book.Fillable trade.header.side false trade.header.key qty order)
      (balanced : order.header.Balanced)
      (reports : trade.Reports (order.header.applyExecution qty price)) :
      Publication allow book trade.toEvent
        ((book.fill trade.header.side false trade.header.key
          (order.header.applyExecution qty price)).record trade)
  | taken {book : OrderBook ρ} {event removed : MarketEvent}
      (found : (book.sideOf event.header.side).find? event.key = some removed) :
      Publication allow book (removed.mapHeader fun rh => { rh with action := Action.delete })
        (book.setSide event.header.side ((book.sideOf event.header.side).erase event.key))
  | missed {book : OrderBook ρ} {event : MarketEvent} (allowed : allow (.delete event))
      (missing : (book.sideOf event.header.side).find? event.key = none) :
      Publication allow book (event.mapHeader fun rh => { rh with action := Action.delete })
        book

/-- No move changes who is subscribed. -/
theorem Publication.subscriptions {allow : BookRequest → Prop} {before after : OrderBook ρ}
    {event : MarketEvent}
    (publication : Publication allow before event after) :
    after.subscriptions = before.subscriptions := by
  cases publication <;> simp

/-- The two publications of a round of matching in a well-formed book: the aggressor's trade
reports the aggressor's fill, and the resting order's trade the resting order's, each naming the
side its order rests on. The round fills both orders before it tapes and publishes the trades;
the moves shown are the fill of each order with its trade on the tape, one after the other. -/
theorem OrderBook.WellFormed.round_publications {book : OrderBook ρ} (wellFormed : book.WellFormed)
    (allow : BookRequest → Prop) (now : Instant) {side : Side} {key : OrderKey}
    {aggressor resting : MarketEvent} {trade : Trade}
    (found : (book.sideOf side).find? key = some aggressor)
    (live : 0 < aggressor.header.remainingQty)
    (chosen : book.tradeFor aggressor (book.oppositeOf side).orders = some trade)
    (contra : (book.oppositeOf side).find? trade.contraKey = some resting) :
    let stamped := trade.withHeader { trade.header with transactTime := now }
    let counter := trade.counterpart resting.header
    let between := (book.fill side false key (aggressor.header.applyExecution
      trade.execution.execQty trade.execution.execPrice)).record stamped
    Publication allow book stamped.toEvent between ∧
      Publication allow between
        (counter.withHeader { counter.header with transactTime := now }).toEvent
        (book.afterRound side key now aggressor resting trade) := by
  obtain ⟨fillsAggressor, fillsResting⟩ := wellFormed.round_fillable found live chosen contra
  obtain ⟨restingMember, -, rfl⟩ := wellFormed.matchRound_trade found chosen contra
  have aggressorMember := (wellFormed.sideOf side).mem_of_find? found
  have aggressorBuys : aggressor.header.side.isBuy = side.isBuy :=
    ((wellFormed.sideOf side).isBuy_of_mem aggressorMember).trans (wellFormed.buying_sideOf side)
  have restingBuys : resting.header.side.isBuy = !side.isBuy := by
    rw [(wellFormed.oppositeOf side).isBuy_of_mem restingMember, wellFormed.buying_oppositeOf]
  have aggressorKey := (wellFormed.sideOf side).key_of_find? found
  have restingKey := (wellFormed.oppositeOf side).key_of_find? contra
  set trade := PriceTime.tradeAgainst aggressor.header resting.header
  set stamped := trade.withHeader { trade.header with transactTime := now }
  set counter := trade.counterpart resting.header
  set stampedCounter := counter.withHeader { counter.header with transactTime := now }
  set between := (book.fill side false key (aggressor.header.applyExecution
    trade.execution.execQty trade.execution.execPrice)).record stamped
  -- Each trade names its order by the order's own side code and key.
  have stampedKey : stamped.header.key = key := aggressorKey
  have counterBuys : stampedCounter.header.side.isBuy = !side.isBuy := by
    simpa [stampedCounter, counter, Trade.counterpart, Trade.settle_header, Trade.withHeader,
      Header.applyExecution] using restingBuys
  have counterKey : stampedCounter.header.key = trade.contraKey := by
    simpa [stampedCounter, counter, Trade.counterpart, Trade.settle_header, Trade.withHeader,
      Header.applyExecution, Header.key, MarketEvent.key] using restingKey
  constructor
  · have fillable : book.Fillable stamped.header.side false stamped.header.key
        trade.execution.execQty aggressor := by
      unfold OrderBook.Fillable
      rw [OrderBook.pick_false, stampedKey,
        show book.sideOf stamped.header.side = book.sideOf side from
          book.sideOf_of_isBuy aggressorBuys]
      exact fillsAggressor
    have published : Publication allow book stamped.toEvent
        ((book.fill stamped.header.side false stamped.header.key (aggressor.header.applyExecution
          trade.execution.execQty trade.execution.execPrice)).record stamped) :=
      .traded fillable ((wellFormed.sideOf side).balanced aggressor aggressorMember)
        (Trade.reports_tradeAgainst _ _ now)
    rwa [stampedKey, show book.fill stamped.header.side false key = book.fill side false key from
      funext (book.fill_of_isBuy aggressorBuys key)] at published
  · -- Taping the first trade touched no side.
    have fillable : between.Fillable stampedCounter.header.side false stampedCounter.header.key
        trade.execution.execQty resting := by
      unfold OrderBook.Fillable
      rw [OrderBook.pick_false, counterKey, between.sideOf_of_isBuy_not counterBuys]
      simpa [between, OrderBook.Fillable] using fillsResting
    have published : Publication allow between stampedCounter.toEvent
        ((between.fill stampedCounter.header.side false stampedCounter.header.key
          (resting.header.applyExecution trade.execution.execQty trade.execution.execPrice)).record
          stampedCounter) :=
      .traded fillable ((wellFormed.oppositeOf side).balanced resting restingMember)
        (Trade.reports_settle _ _ now)
    rwa [between.fill_of_isBuy_not counterBuys, counterKey, OrderBook.fill_record] at published

/-- The publication of an outside trade applied to the order it names in a well-formed book:
the order is filled by the quantity applied, and the applied trade, which carries the order's
new quantities, goes on the tape and is shown. The trade is a fill only when the quantity
applied is all the order had left. -/
theorem OrderBook.WellFormed.applied_publication {book : OrderBook ρ}
    (wellFormed : book.WellFormed) (allow : BookRequest → Prop) {trade : Trade}
    {resting : MarketEvent} {qty : Int64} (price : Decimal) (now : Instant)
    (fillable : book.Fillable trade.header.side false trade.header.key qty resting)
    (settles : trade.complete = true → qty = resting.header.remainingQty) :
    let filled := resting.header.applyExecution qty price
    let applied : Trade := ⟨trade.complete,
      { trade.header with
        orderQty := filled.orderQty, cumQty := filled.cumQty,
        remainingQty := filled.remainingQty, avgPrice := filled.avgPrice,
        action := if filled.remainingQty == 0 then Action.delete else Action.change,
        transactTime :=
          if trade.header.transactTime.isZero then now else trade.header.transactTime },
      { trade.execution with execQty := qty, execPrice := price }⟩
    Publication allow book applied.toEvent
      ((book.fill trade.header.side false trade.header.key filled).record applied) := by
  intro filled applied
  have balanced := (wellFormed.sideOf trade.header.side).balanced resting
    ((wellFormed.sideOf trade.header.side).mem_of_find? fillable.1)
  have named : resting.header.key = trade.header.key :=
    (wellFormed.sideOf trade.header.side).key_of_find? fillable.1
  -- The applied trade names the order and copies its quantities after the fill.
  have reports : applied.Reports filled :=
    ⟨named.symm, rfl, rfl, rfl, rfl, fun complete =>
      (balanced.remainingQty_applyExecution_eq_zero price fillable.2.1 fillable.2.2).mpr
        (settles complete)⟩
  exact .traded fillable balanced reports

/-- Subscribers that never report a broken invariant: only the book itself can stop a run. -/
def Delivery.Calm (deliver : Delivery ρ σ) : Prop :=
  ∀ audience book subscription event message,
    (deliver audience book subscription event).2.panic ≠ some (.invariant message)

/-- The subscribers' state once an event has been delivered to each subscription of a list in
turn, each shown the book `shown`. -/
def Delivery.afterAll (deliver : Delivery ρ σ) (audience : σ) (shown : OrderBook ρ)
    (event : MarketEvent) (subscriptions : List (Subscription ρ)) : σ :=
  subscriptions.foldl (fun audience subscription => (deliver audience shown subscription event).1)
    audience

/-- A delivery watches `Sees` when every publication of a move from a well-formed book,
delivered to all subscribers of the book shown (the subscribers of the book after the move),
carries a picture of the book before the move to one of the book after it. -/
def Delivery.Watches (deliver : Delivery ρ σ) (allow : BookRequest → Prop)
    (Sees : σ → OrderBook ρ → Prop) : Prop :=
  ∀ audience before event after shown, Publication allow before event after →
    before.WellFormed → shown.subscriptions = after.subscriptions → Sees audience before →
      Sees (deliver.afterAll audience shown event shown.subscriptions) after

/-- Every delivery watches what holds of every state and book. -/
theorem Delivery.watches_true (deliver : Delivery ρ σ) (allow : BookRequest → Prop) :
    deliver.Watches allow fun _ _ => True :=
  fun _ _ _ _ _ _ _ _ _ => trivial

namespace BookM

variable {deliver : Delivery ρ σ} {allow : BookRequest → Prop}

/-- Taking a subscriber's requests leaves the subscribers' state alone, and never fails. -/
theorem takeRequests_audience (knows : σ → Prop) (requests : List BookRequest) :
    ⦃fun run => ⌜knows run.audience⌝⦄
      (takeRequests requests : BookM ρ σ Unit)
    ⦃post⟨fun _ run => ⌜knows run.audience⌝, fun _ _ => ⌜False⌝⟩⦄ := by
  induction requests with
  | nil => mvcgen [takeRequests]
  | cons request rest inductionHypothesis =>
    mvcgen [takeRequests, book, enqueue, log, note, inductionHypothesis]

/-- Delivering an event to a calm subscriber does not stop the book: the subscribers' state
becomes the one the delivery gives, and only admitted requests are queued. What was known of
the state before is known of the state the delivery started from. -/
theorem deliverTo_calm (calm : deliver.Calm) (asks : deliver.Asks allow) (shown : OrderBook ρ)
    (knows : σ → Prop) (subscription : Subscription ρ) (event : MarketEvent) :
    ⦃fun run => ⌜run.book = shown ∧ knows run.audience ∧ shown.AdmitsAll allow run.pending⌝⦄
      deliverTo deliver subscription event
    ⦃post⟨fun _ run => ⌜run.book = shown ∧
        (∃ audience, knows audience ∧
          run.audience = (deliver audience shown subscription event).1) ∧
        shown.AdmitsAll allow run.pending⌝,
      fun _ _ => ⌜False⌝⟩⦄ := by
  have requestsSpec := fun (requests : List BookRequest)
      (asked : ∀ request ∈ requests, shown.Admits request → allow request) =>
    Triple.and _ (takeRequests_spec (σ := σ) shown requests asked)
      (takeRequests_audience (fun audience => ∃ before, knows before ∧
        audience = (deliver before shown subscription event).1) requests)
  mvcgen [deliverTo, book, log, note, requestsSpec]
  case asked =>
    -- What the subscriber asks for, it asks of the book it was shown.
    obtain ⟨rfl, -, -⟩ := ‹_ ∧ _›
    exact asks _ _ subscription event
  case pre =>
    obtain ⟨rfl, knew, admitted⟩ := ‹_ ∧ _›
    exact ⟨⟨rfl, admitted⟩, _, knew, rfl⟩
  case h_2 =>
    -- A calm subscriber reports no broken invariant.
    rename_i message invariantPanic _ _
    exact (calm _ _ subscription event message invariantPanic).elim
  all_goals simp_all +zetaDelta

/-- Delivering an event to a list of calm subscribers does not stop the book: their state is
the fold of their deliveries, from a state of which what was known before is known. -/
theorem deliverAll_calm (calm : deliver.Calm) (asks : deliver.Asks allow) (shown : OrderBook ρ)
    (event : MarketEvent) (subscriptions : List (Subscription ρ)) (knows : σ → Prop) :
    ⦃fun run => ⌜run.book = shown ∧ knows run.audience ∧ shown.AdmitsAll allow run.pending⌝⦄
      deliverAll deliver event subscriptions
    ⦃post⟨fun _ run => ⌜run.book = shown ∧
        (∃ audience, knows audience ∧
          run.audience = deliver.afterAll audience shown event subscriptions) ∧
        shown.AdmitsAll allow run.pending⌝,
      fun _ _ => ⌜False⌝⟩⦄ := by
  induction subscriptions generalizing knows with
  | nil =>
    mvcgen [deliverAll]
    obtain ⟨rfl, knew, admitted⟩ := ‹_ ∧ _›
    exact ⟨rfl, ⟨_, knew, rfl⟩, admitted⟩
  | cons subscription rest inductionHypothesis =>
    have deliverSpec := deliverTo_calm calm asks shown knows subscription event
    -- The rest of the list is delivered from the state the first subscriber left.
    have restSpec := inductionHypothesis
      fun audience => ∃ before, knows before ∧
        audience = (deliver before shown subscription event).1
    mvcgen [deliverAll, deliverSpec, restSpec]
    rintro rfl ⟨audience, ⟨before, knew, rfl⟩, reached⟩ admitted
    exact ⟨rfl, ⟨before, knew, reached⟩, admitted⟩

/-- Publishing the event of a move to calm subscribers that watch `Sees` does not stop the book,
and carries `Sees` from the book before the move to the book after it. The subscribers are
shown the book as it stands, which has the subscribers of the book after the move. -/
theorem publish_calm (calm : deliver.Calm) (asks : deliver.Asks allow)
    {Sees : σ → OrderBook ρ → Prop} (watches : deliver.Watches allow Sees)
    {before after : OrderBook ρ} {event : MarketEvent}
    (publication : Publication allow before event after) (wellFormed : before.WellFormed)
    (shown : OrderBook ρ) (sameSubscribers : shown.subscriptions = after.subscriptions) :
    ⦃fun run => ⌜run.book = shown ∧ Sees run.audience before ∧ shown.AdmitsAll allow run.pending⌝⦄
      publish deliver event
    ⦃post⟨fun _ run => ⌜run.book = shown ∧ Sees run.audience after ∧
        shown.AdmitsAll allow run.pending⌝,
      fun _ _ => ⌜False⌝⟩⦄ := by
  have deliverSpec := fun subscriptions =>
    deliverAll_calm calm asks shown event subscriptions fun audience => Sees audience before
  mvcgen [publish, note, book, deliverSpec]
  rename_i run pre noted _ _
  -- The subscriptions delivered to are those of the book shown.
  have shownBook : noted.2.book = shown := pre.1
  rintro sameBook ⟨audience, saw, reached⟩ admitted
  rw [shownBook] at reached
  refine ⟨sameBook, ?_, admitted⟩
  rw [reached]
  exact watches audience before event after shown publication wellFormed sameSubscribers saw

end BookM

end Bourse
