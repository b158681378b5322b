import Mathlib.Logic.Relation
import Bourse.Proofs.Book.Rank
import Bourse.Book.Run

/-!
# What operations do to the book

`BookM` runs interleave changes to the book with calls to its subscribers, which change only
their own state and the queue of waiting operations (or stop the run). This module names the
changes themselves, as relations between books, so that every invariant of the book is proved
once about them, away from the subscribers:

- `MatchRound`: one round of `BookM.matchOrder`, which fills the aggressor and the resting
  order the strategy chose by the trade's quantity and puts both trades on the tape;
- `MatchDone`: the state in which `matchOrder` stops, the aggressor gone, exhausted, or with no
  trade left;
- `Performs`: what one queued operation (`BookM.perform`) does, run to its end or cut short by
  a subscriber.

The effects are written with small functions on books (`OrderBook.fill`, `OrderBook.record`,
`OrderBook.placeOrder`, `OrderBook.afterRound`) that follow the code of `BookM.fillOrder`,
`BookM.record` and `BookM.place` step for step.
-/

namespace Bourse

namespace BookSide

/-- The side with the order of a key filled to `filled`: its header replaced, and the order
taken off when nothing of it remains. -/
def fill (side : BookSide) (key : OrderKey) (filled : Header) : BookSide :=
  let updated := side.update key fun _ => filled
  if filled.remainingQty == 0 then updated.erase key else updated

@[simp] theorem buying_fill (side : BookSide) (key : OrderKey) (filled : Header) :
    (side.fill key filled).buying = side.buying := by
  unfold fill
  split <;> rfl

@[simp] theorem buying_insert (side : BookSide) (order : MarketEvent) :
    (side.insert order).buying = side.buying :=
  rfl

@[simp] theorem buying_erase (side : BookSide) (key : OrderKey) :
    (side.erase key).buying = side.buying :=
  rfl

end BookSide

/-- The key a trade names as the other side. -/
def Trade.contraKey (trade : Trade) : OrderKey :=
  ⟨trade.execution.contraClientId, trade.execution.contraOrderId⟩

namespace OrderBook

variable {ρ : Type}

section Sides

variable (book : OrderBook ρ) (side : Side) (orders : BookSide)

@[simp] theorem sideOf_setSide : (book.setSide side orders).sideOf side = orders := by
  unfold setSide sideOf
  split <;> simp_all

@[simp] theorem oppositeOf_setSide :
    (book.setSide side orders).oppositeOf side = book.oppositeOf side := by
  unfold setSide oppositeOf
  split <;> simp_all

@[simp] theorem sideOf_setOpposite :
    (book.setOpposite side orders).sideOf side = book.sideOf side := by
  unfold setOpposite sideOf
  split <;> simp_all

@[simp] theorem oppositeOf_setOpposite :
    (book.setOpposite side orders).oppositeOf side = orders := by
  unfold setOpposite oppositeOf
  split <;> simp_all

@[simp] theorem setSide_setSide (other : BookSide) :
    (book.setSide side orders).setSide side other = book.setSide side other := by
  unfold setSide
  split <;> simp_all

@[simp] theorem setOpposite_setOpposite (other : BookSide) :
    (book.setOpposite side orders).setOpposite side other = book.setOpposite side other := by
  unfold setOpposite
  split <;> simp_all

@[simp] theorem tape_setSide : (book.setSide side orders).tape = book.tape := by
  unfold setSide
  split <;> rfl

@[simp] theorem tape_setOpposite : (book.setOpposite side orders).tape = book.tape := by
  unfold setOpposite
  split <;> rfl

@[simp] theorem symbol_setSide : (book.setSide side orders).symbol = book.symbol := by
  unfold setSide
  split <;> rfl

@[simp] theorem symbol_setOpposite : (book.setOpposite side orders).symbol = book.symbol := by
  unfold setOpposite
  split <;> rfl

@[simp] theorem strategy_setSide : (book.setSide side orders).strategy = book.strategy := by
  unfold setSide
  split <;> rfl

@[simp] theorem strategy_setOpposite :
    (book.setOpposite side orders).strategy = book.strategy := by
  unfold setOpposite
  split <;> rfl

end Sides

/-- The side `BookM.fillOrder` works on: the side of the side code, or with `opposite` the one
against it. -/
def pick (book : OrderBook ρ) (side : Side) (opposite : Bool) : BookSide :=
  if opposite then book.oppositeOf side else book.sideOf side

@[simp] theorem pick_false (book : OrderBook ρ) (side : Side) :
    book.pick side false = book.sideOf side := rfl

@[simp] theorem pick_true (book : OrderBook ρ) (side : Side) :
    book.pick side true = book.oppositeOf side := rfl

/-- The book with that side replaced. -/
def store (book : OrderBook ρ) (side : Side) (opposite : Bool) (orders : BookSide) :
    OrderBook ρ :=
  if opposite then book.setOpposite side orders else book.setSide side orders

@[simp] theorem pick_store (book : OrderBook ρ) (side : Side) (opposite : Bool)
    (orders : BookSide) : (book.store side opposite orders).pick side opposite = orders := by
  cases opposite <;> simp [pick, store]

@[simp] theorem store_store (book : OrderBook ρ) (side : Side) (opposite : Bool)
    (first second : BookSide) :
    (book.store side opposite first).store side opposite second =
      book.store side opposite second := by
  cases opposite <;> cases buys : side.isBuy <;>
    simp [store, setSide, setOpposite, buys]

/-- The book after the order of a key was filled to `filled` on the chosen side, and taken off
when nothing of it remains: what `BookM.fillOrder` leaves when it succeeds. -/
def fill (book : OrderBook ρ) (side : Side) (opposite : Bool) (key : OrderKey) (filled : Header) :
    OrderBook ρ :=
  book.store side opposite ((book.pick side opposite).fill key filled)

/-- The book with a trade put on the tape. -/
def record (book : OrderBook ρ) (trade : Trade) : OrderBook ρ :=
  { book with tape := book.tape.push trade }

section Effects

variable (book : OrderBook ρ) (side : Side) (key : OrderKey) (filled : Header) (trade : Trade)

@[simp] theorem sideOf_record : (book.record trade).sideOf side = book.sideOf side := by
  unfold record sideOf
  split <;> rfl

@[simp] theorem oppositeOf_record : (book.record trade).oppositeOf side = book.oppositeOf side := by
  unfold record oppositeOf
  split <;> rfl

@[simp] theorem tape_record : (book.record trade).tape = book.tape.push trade := rfl
@[simp] theorem symbol_record : (book.record trade).symbol = book.symbol := rfl
@[simp] theorem strategy_record : (book.record trade).strategy = book.strategy := rfl

@[simp] theorem sideOf_fill_own :
    (book.fill side false key filled).sideOf side = (book.sideOf side).fill key filled := by
  simp [fill, store, pick]

@[simp] theorem oppositeOf_fill_own :
    (book.fill side false key filled).oppositeOf side = book.oppositeOf side := by
  simp [fill, store]

@[simp] theorem sideOf_fill_opposite :
    (book.fill side true key filled).sideOf side = book.sideOf side := by
  simp [fill, store]

@[simp] theorem oppositeOf_fill_opposite :
    (book.fill side true key filled).oppositeOf side = (book.oppositeOf side).fill key filled := by
  simp [fill, store, pick]

@[simp] theorem tape_fill (opposite : Bool) : (book.fill side opposite key filled).tape = book.tape := by
  cases opposite <;> simp [fill, store]

@[simp] theorem symbol_fill (opposite : Bool) :
    (book.fill side opposite key filled).symbol = book.symbol := by
  cases opposite <;> simp [fill, store]

@[simp] theorem strategy_fill (opposite : Bool) :
    (book.fill side opposite key filled).strategy = book.strategy := by
  cases opposite <;> simp [fill, store]

end Effects

/-- The header `BookM.place` gives an order: action `ADD`, and the current time when the order
carries none. -/
def stamp (now : Instant) (header : Header) : Header :=
  { header with action := Action.add,
                transactTime := if header.transactTime.isZero then now else header.transactTime }

section Stamp

variable (now : Instant) (header : Header)

@[simp] theorem side_stamp : (stamp now header).side = header.side := rfl
@[simp] theorem key_stamp : (stamp now header).key = header.key := rfl
@[simp] theorem orderQty_stamp : (stamp now header).orderQty = header.orderQty := rfl
@[simp] theorem cumQty_stamp : (stamp now header).cumQty = header.cumQty := rfl
@[simp] theorem remainingQty_stamp : (stamp now header).remainingQty = header.remainingQty := rfl

end Stamp

/-- The book with an order, stamped, resting in its place on its side. -/
def placeOrder (book : OrderBook ρ) (now : Instant) (order : MarketEvent) : OrderBook ρ :=
  let header := stamp now order.header
  book.setSide header.side ((book.sideOf header.side).insert (order.withHeader header))

/-- The strategy's trade for a resting order against the other side: bids and offers go to
their own tests, and nothing else trades. -/
def tradeFor (book : OrderBook ρ) (aggressor : MarketEvent) (opposite : List MarketEvent) :
    Option Trade :=
  match aggressor with
  | .bid _ => book.strategy.checkBid aggressor.header opposite
  | .offer _ => book.strategy.checkOffer aggressor.header opposite
  | _ => none

/-- The book after one round of matching: the aggressor with `key` and the resting order the
trade names both filled by the trade's quantity at its price, then the aggressor's trade and
the resting order's trade put on the tape, both stamped with the time of the round. -/
def afterRound (book : OrderBook ρ) (side : Side) (key : OrderKey) (now : Instant)
    (aggressor resting : MarketEvent) (trade : Trade) : OrderBook ρ :=
  let x := trade.execution
  let counter := trade.counterpart resting.header
  (((book.fill side false key (aggressor.header.applyExecution x.execQty x.execPrice)).fill
      side true trade.contraKey (resting.header.applyExecution x.execQty x.execPrice)).record
    (trade.withHeader { trade.header with transactTime := now })).record
    (counter.withHeader { counter.header with transactTime := now })

end OrderBook

variable {ρ : Type}

/-- One round of matching the order with `key` on `side`: it is still there with quantity
left, the strategy finds a trade for it against the other side, and the order the trade names
rests there. -/
inductive MatchRound (side : Side) (key : OrderKey) (now : Instant) :
    OrderBook ρ → OrderBook ρ → Prop
  | traded {book : OrderBook ρ} {aggressor resting : MarketEvent} {trade : Trade}
      (found : (book.sideOf side).find? key = some aggressor)
      (live : 0 < aggressor.header.remainingQty)
      (chosen : book.tradeFor aggressor (book.oppositeOf side).orders = some trade)
      (contra : (book.oppositeOf side).find? trade.contraKey = some resting) :
      MatchRound side key now book (book.afterRound side key now aggressor resting trade)

/-- Matching of the order with `key` on `side` is over: if it is still there with quantity
left, the strategy finds no trade for it. -/
def MatchDone (side : Side) (key : OrderKey) (book : OrderBook ρ) : Prop :=
  ∀ aggressor, (book.sideOf side).find? key = some aggressor →
    0 < aggressor.header.remainingQty → book.tradeFor aggressor (book.oppositeOf side).orders = none

/-- What one queued operation does to the book; `finished` says it ran to its end rather than
being stopped by a subscriber. An order is placed and then matched, to the end when the
operation finished; an outside trade fills the order it names by a positive quantity within
what remains and goes on the tape; a delete takes the order off. Anything else leaves the book
as it was. -/
inductive Performs (now : Instant) : BookRequest → OrderBook ρ → OrderBook ρ → Bool → Prop
  | placed {book after : OrderBook ρ} {event : MarketEvent} {finished : Bool}
      (order : Trade.ofEvent? event = none)
      (fresh : (book.sideOf event.header.side).contains event.key = false)
      (matched : Relation.ReflTransGen (MatchRound event.header.side event.key now)
        (book.placeOrder now event) after)
      (settled : finished = true → MatchDone event.header.side event.key after) :
      Performs now (.add event) book after finished
  | settled {book : OrderBook ρ} {event : MarketEvent} {finished : Bool} {trade : Trade}
      {resting : MarketEvent} {qty : Int64} {price : Decimal} {recorded : Trade}
      (outside : Trade.ofEvent? event = some trade)
      (found : (book.sideOf trade.header.side).find? trade.header.key = some resting)
      (positive : 0 < qty) (within : qty ≤ resting.header.remainingQty) :
      Performs now (.add event) book
        ((book.fill trade.header.side false trade.header.key
          (resting.header.applyExecution qty price)).record recorded) finished
  | taken {book : OrderBook ρ} {event : MarketEvent} {finished : Bool} {resting : MarketEvent}
      (found : (book.sideOf event.header.side).find? event.key = some resting) :
      Performs now (.delete event) book
        (book.setSide event.header.side ((book.sideOf event.header.side).erase event.key))
        finished
  | unchanged {book : OrderBook ρ} {request : BookRequest} {finished : Bool}
      (placesNothing : ∀ event, request = .add event → Trade.ofEvent? event = none →
        (book.sideOf event.header.side).contains event.key = true) :
      Performs now request book book finished

end Bourse
