import Bourse.Book.Basic

/-!
# Running the order book

Every change to a book is one run: the book takes the first operation, then the operations its
subscribers asked for while it worked, oldest first, until none are left. An operation is one
of four:

- **placing an order**: it is stamped (action `ADD`, and the current time when it has none),
  rests on its side (an order whose key already rests there is ignored), is published, and then
  trades against the other side for as long as the strategy finds a trade. Each trade fills
  both orders by the same quantity at the same price, goes on the tape as the aggressor's trade
  followed by the resting order's, and both are published; an order with nothing left leaves
  the book.
- **applying an outside trade** (a fill or partial fill from replayed history): the resting
  order it names is filled by the trade's quantity, clamped to what remains (a fill takes all
  that remains), at the trade's price (the order's own price when the trade has none). The
  trade, rewritten with the order's new quantities, goes on the tape and is published. A trade
  for an order the book does not hold is ignored.
- **deleting an order**: the resting order is taken off and published with action `DELETE`;
  for an order the book does not hold, the delete request itself is published.

After the last operation the book reports its resting counts and best prices. When an
invariant of the book breaks, or a subscriber reports a broken invariant, the run stops at
once with the message, keeping what it changed so far.

Runs are written in `BookM`, a state-and-error monad over `BookRun`: the book, the state of its
subscribers, the queue of waiting operations and the notes the book has made. A run that never
empties its queue would not end, so each call takes a budget: after its own operation a run takes
at most that many of those queued on the way, and leaves the rest waiting. The program's calls
use `queueLimit`.
-/

namespace Bourse

/-- How a subscriber handles an event: from the subscribers' state, the book as it is, the
subscription and the event, the new state and its reaction. -/
abbrev Delivery (ρ σ : Type) := σ → OrderBook ρ → Subscription ρ → MarketEvent → σ × Reaction

/-- A book at work with the state of its subscribers. -/
structure BookRun (ρ σ : Type) where
  book : OrderBook ρ
  /-- The subscribers' state. -/
  audience : σ
  /-- Operations waiting to run. -/
  pending : List BookRequest
  /-- What the book reported, oldest first. -/
  notes : Array BookNote

/-- Computations on a book at work; an error is the message of a broken invariant. -/
abbrev BookM (ρ σ : Type) := EStateM String (BookRun ρ σ)

/-- The budget of the program's runs: with the run's own operation, at most a million operations
taken from the queue. Subscribers that keep asking for more would otherwise keep the book busy
forever. -/
def queueLimit : Nat := 999999

namespace BookM

variable {ρ σ : Type}

/-- Reports a note. -/
def note (entry : BookNote) : BookM ρ σ Unit :=
  modify fun run => { run with notes := run.notes.push entry }

/-- Writes a log record. -/
def log (level : LogLevel) (message : String) (fields : List Field) : BookM ρ σ Unit :=
  note (.log ⟨level, message, fields⟩)

/-- The book as it is. -/
def book : BookM ρ σ (OrderBook ρ) := do return (← get).book

/-- Changes the book. -/
def modifyBook (change : OrderBook ρ → OrderBook ρ) : BookM ρ σ Unit :=
  modify fun run => { run with book := change run.book }

/-- Queues an operation after those already waiting. -/
def enqueue (request : BookRequest) : BookM ρ σ Unit :=
  modify fun run => { run with pending := run.pending ++ [request] }

/-- Handles the requests of a subscriber: an add that the book would refuse is dropped with a
warning; every other request is queued. -/
def takeRequests : List BookRequest → BookM ρ σ Unit
  | [] => pure ()
  | request :: rest => do
    match request with
    | .add event =>
      match (← book).check event with
      | .error e => log .warn "nested add rejected" [("error", .text e.message)]
      | .ok () => enqueue request
    | .delete _ => enqueue request
    takeRequests rest

/-- Delivers an event to one subscriber and handles its reaction. -/
def deliverTo (deliver : Delivery ρ σ) (subscription : Subscription ρ) (event : MarketEvent) :
    BookM ρ σ Unit := do
  let run ← get
  let (audience, reaction) := deliver run.audience run.book subscription event
  set { run with audience }
  takeRequests reaction.requests
  match reaction.panic with
  | none => pure ()
  | some (.invariant message) => throw message
  | some (.recovered text) =>
    note (.subscriberFailed subscription.name)
    log .error "subscriber failed"
      [("subscriber", .text subscription.name), ("event", .text event.summary),
        ("panic", .text text)]
    note (.alert ⟨.error, "order book subscriber failed: " ++ subscription.name, Instant.zero,
      [("symbol", .text (← book).symbol), ("subscriber", .text subscription.name),
        ("panic", .text text)]⟩)

/-- Delivers an event to each of the subscribers, in order. -/
def deliverAll (deliver : Delivery ρ σ) (event : MarketEvent) :
    List (Subscription ρ) → BookM ρ σ Unit
  | [] => pure ()
  | subscription :: rest => do
    deliverTo deliver subscription event
    deliverAll deliver event rest

/-- Publishes an event to every subscriber of the book. -/
def publish (deliver : Delivery ρ σ) (event : MarketEvent) : BookM ρ σ Unit := do
  note (.published event.kind)
  deliverAll deliver event (← book).subscriptions

/-- Puts a trade on the tape. -/
def record (trade : Trade) : BookM ρ σ Unit := do
  modifyBook fun b => { b with tape := b.tape.push trade }
  note (.traded trade)

/-- Fills the order with a key on the side of `side` (or, with `opposite`, on the side
against it) by `qty` at `price`, taking it off when nothing remains, and gives its new header.
A quantity that is not positive or exceeds what remains, or quantities that no longer add up,
break the book's invariant. -/
def fillOrder (side : Side) (opposite : Bool) (key : OrderKey) (qty : Int64) (price : Decimal) :
    BookM ρ σ Header := do
  let b ← book
  let orders := if opposite then b.oppositeOf side else b.sideOf side
  let store (orders : BookSide) : BookM ρ σ Unit :=
    modifyBook fun b => if opposite then b.setOpposite side orders else b.setSide side orders
  match orders.find? key with
  | none => throw (invariantMessage (key.text ++ " is not resting"))
  | some order =>
    let h := order.header
    if qty ≤ 0 || qty > h.remainingQty then
      throw (invariantMessage (key.text ++ " traded " ++ int64Text qty ++ " with remaining " ++
        int64Text h.remainingQty))
    let filled := h.applyExecution qty price
    let updated := orders.update key fun _ => filled
    store updated
    if filled.remainingQty < 0 || filled.remainingQty != filled.orderQty - filled.cumQty then
      throw (invariantMessage (key.text ++ " remaining " ++ int64Text filled.remainingQty ++
        " cum " ++ int64Text filled.cumQty ++ " order " ++ int64Text filled.orderQty))
    if filled.remainingQty == 0 then store (updated.erase key)
    return filled

/-- Trades the order with a key against the other side until the strategy finds no trade or
the order has nothing left. Each round fills the order or the resting order it meets, so the
number of resting orders on the other side, plus one, bounds the rounds. -/
def matchOrder (deliver : Delivery ρ σ) (now : Instant) (side : Side) (key : OrderKey) :
    Nat → BookM ρ σ Unit
  | 0 => pure ()
  | rounds + 1 => do
    let b ← book
    match (b.sideOf side).find? key with
    | none => pure ()
    | some aggressor =>
      let h := aggressor.header
      if h.remainingQty ≤ 0 then return
      let opposite := (b.oppositeOf side).orders
      let trade? := match aggressor with
        | .bid _ => b.strategy.checkBid h opposite
        | .offer _ => b.strategy.checkOffer h opposite
        | _ => none
      match trade? with
      | none => pure ()
      | some trade =>
        let x := trade.execution
        let contraKey : OrderKey := ⟨x.contraClientId, x.contraOrderId⟩
        match (b.oppositeOf side).find? contraKey with
        | none =>
          throw (invariantMessage ("strategy matched unknown order " ++ x.contraClientId ++ "/" ++
            x.contraOrderId))
        | some resting =>
          let counter := trade.counterpart resting.header
          let trade := trade.withHeader { trade.header with transactTime := now }
          let counter := counter.withHeader { counter.header with transactTime := now }
          let _ ← fillOrder side false key x.execQty x.execPrice
          let _ ← fillOrder side true contraKey x.execQty x.execPrice
          record trade
          record counter
          publish deliver trade.toEvent
          publish deliver counter.toEvent
          matchOrder deliver now side key rounds

/-- Places an order on its side and trades it. -/
def place (deliver : Delivery ρ σ) (now : Instant) (order : MarketEvent) : BookM ρ σ Unit := do
  let h := order.header
  let h := { h with action := Action.add,
                    transactTime := if h.transactTime.isZero then now else h.transactTime }
  let order := order.withHeader h
  let b ← book
  if (b.sideOf h.side).contains h.key then
    log .warn "duplicate open order ignored" [("order", .text h.key.text)]
  else
    modifyBook fun b => b.setSide h.side ((b.sideOf h.side).insert order)
    publish deliver order
    matchOrder deliver now h.side h.key ((← book).oppositeOf h.side).size.succ

/-- Applies a trade from outside to the resting order it names. -/
def applyTrade (deliver : Delivery ρ σ) (now : Instant) (trade : Trade) : BookM ρ σ Unit := do
  let h := trade.header
  let x := trade.execution
  let kind := trade.toEvent.kind.name
  match ((← book).sideOf h.side).find? h.key with
  | none =>
    note (.lookupMiss kind)
    log .debug "trade for unknown order ignored" [("kind", .text kind), ("order", .text h.key.text)]
  | some resting =>
    let rh := resting.header
    let qty ←
      if trade.complete then pure rh.remainingQty
      else if x.execQty ≤ 0 || x.execQty > rh.remainingQty then do
        log .warn "trade quantity clamped to resting quantity"
          [("order", .text h.key.text), ("exec_qty", .int x.execQty.toInt),
            ("remaining_qty", .int rh.remainingQty.toInt)]
        pure rh.remainingQty
      else pure x.execQty
    let price := if x.execPrice.isZero then rh.price else x.execPrice
    let filled ← fillOrder h.side false h.key qty price
    let header := { h with orderQty := filled.orderQty, cumQty := filled.cumQty,
                           remainingQty := filled.remainingQty, avgPrice := filled.avgPrice,
                           action := if filled.remainingQty == 0 then Action.delete else Action.change,
                           transactTime := if h.transactTime.isZero then now else h.transactTime }
    let applied : Trade := ⟨trade.complete, header, { x with execQty := qty, execPrice := price }⟩
    record applied
    publish deliver applied.toEvent

/-- Takes an order off the book and publishes it deleted; publishes the request itself when
the book does not hold the order. -/
def remove (deliver : Delivery ρ σ) (request : MarketEvent) : BookM ρ σ Unit := do
  let h := request.header
  match ((← book).sideOf h.side).remove? h.key with
  | some (removed, rest) =>
    modifyBook fun b => b.setSide h.side rest
    publish deliver (removed.mapHeader fun rh => { rh with action := Action.delete })
  | none =>
    note (.lookupMiss "DELETE")
    log .debug "delete for unknown order" [("order", .text h.key.text), ("side", .text h.side.name)]
    publish deliver (request.mapHeader fun rh => { rh with action := Action.delete })

/-- Runs one operation. -/
def perform (deliver : Delivery ρ σ) (now : Instant) : BookRequest → BookM ρ σ Unit
  | .add event =>
    match Trade.ofEvent? event with
    | some trade => applyTrade deliver now trade
    | none => place deliver now event
  | .delete event => remove deliver event

/-- Runs the waiting operations, oldest first, including those queued on the way. -/
def drain (deliver : Delivery ρ σ) (now : Instant) : Nat → BookM ρ σ Unit
  | 0 => pure ()
  | budget + 1 => do
    match (← get).pending with
    | [] => pure ()
    | request :: rest =>
      modify fun run => { run with pending := rest }
      perform deliver now request
      drain deliver now budget

/-- One run: the operation, then what it caused, up to `budget` operations, then the book's
report of its sides. -/
def run (deliver : Delivery ρ σ) (budget : Nat) (now : Instant) (first : BookRequest) :
    BookM ρ σ Unit := do
  modify fun r => { r with pending := [first] }
  drain deliver now (budget + 1)
  let b ← book
  note (.restingOrders "bid" b.bids.size)
  note (.restingOrders "offer" b.offers.size)
  note (.bestPrices b.bestBid b.bestOffer)
  note .held

/-- Offers an event to the book: an order rests and trades, a trade is applied to the order it
names. Nothing changes when the book refuses the event. -/
def add (deliver : Delivery ρ σ) (budget : Nat) (now : Instant) (event : MarketEvent) :
    BookM ρ σ (Except BookError Unit) := do
  let b ← book
  match b.check event with
  | .error e => return .error e
  | .ok () =>
    if event.isOrder && (b.sideOf event.header.side).contains event.key then
      return .error (.duplicate event.key)
    run deliver budget now (.add event)
    return .ok ()

/-- Deletes the order an event names; says whether it was resting. The delete is published
either way. -/
def delete (deliver : Delivery ρ σ) (budget : Nat) (now : Instant) (event : MarketEvent) :
    BookM ρ σ Bool := do
  let found := ((← book).sideOf event.header.side).contains event.key
  run deliver budget now (.delete event)
  return found

end BookM

end Bourse
