import Bourse.Proofs.Portfolio.Mirror

/-!
# Published trades agree with the book

Subscribers rebuild what they know of orders from the trades the book publishes, never from
the book itself, so each published trade must carry the book's own state. Two computations
meet here. In a round of matching the strategy prices the aggressor's trade on a copy of the
aggressor's header and `Trade.counterpart` books the resting order's trade on a copy of the
resting order's header, while `BookM.fillOrder` books the same execution on the orders in
place and takes an exhausted order off. For an outside trade, `BookM.applyTrade` chooses the
quantity and price itself and copies the filled order's quantities into the trade it tapes.

`Trade.Shows` states what a trade shows of the order it was booked against: its own execution,
booked against the order as it rested, gives the quantities and average price it carries; the
execution is positive, within what the order had left, and exactly what came off the order;
the trade shows the order deleted exactly when nothing of it remains, and the side then no
longer holds the order, which otherwise rests there with the header the trade reports.

- `ShownRound`: a round of matching tapes the aggressor's trade and then the resting order's,
  each showing its order, and each a fill exactly when its order left its side in the round
  (`MatchRound.shown`).
- `AppliedTrade`: an outside trade for an order that rests with something left is booked with
  the quantity the book takes (all that remains for a fill; for a partial fill its own quantity
  when positive and within what remains, and otherwise all that remains) at the price it
  applies (its own, or the order's limit when it has none), keeps its kind and shows the order;
  for any other outside trade the book is left as it was.

`BookM.published_trades_agree` states both of the code: every run of `BookM.matchOrder` on a
well-formed book goes through shown rounds, and `BookM.applyTrade` applies as `AppliedTrade`
says, whether or not a subscriber stops the run after the trades are published.
-/

open Std.Do

set_option mvcgen.warning false

namespace Bourse

variable {ρ σ : Type}

/-- An order's header with a trade's execution booked against it. -/
def Trade.bookedOn (trade : Trade) (header : Header) : Header :=
  header.applyExecution trade.execution.execQty trade.execution.execPrice

/-- What a trade shows of the order it was booked against: `order` is the order as it rested
before, and `after` its side once the trade was booked (see the module header). -/
structure Trade.Shows (trade : Trade) (order : MarketEvent) (after : BookSide) : Prop where
  /-- It carries the order's quantities and average price with its execution booked. -/
  reports : trade.Reports (trade.bookedOn order.header)
  positive : 0 < trade.execution.execQty
  within : trade.execution.execQty ≤ order.header.remainingQty
  /-- Exactly the executed quantity came off what the order had left. -/
  deducted : trade.header.remainingQty.toInt =
    order.header.remainingQty.toInt - trade.execution.execQty.toInt
  /-- The order is shown deleted exactly when nothing of it remains. -/
  deleted : trade.header.action = Action.delete ↔ trade.header.remainingQty = 0
  /-- The side holds the order as the trade shows it, or not at all once it is exhausted. -/
  rests : after.find? order.key =
    if trade.header.remainingQty = 0 then none else some (order.withHeader (trade.bookedOn order.header))

namespace Trade.Shows

variable {trade : Trade} {order : MarketEvent} {after : BookSide}

/-- The order left its side exactly when the trade leaves nothing of it. -/
theorem gone_iff (shows : trade.Shows order after) :
    after.find? order.key = none ↔ trade.header.remainingQty = 0 := by
  rw [shows.rests]
  split <;> simp_all

/-- The order left its side exactly when the trade shows it deleted. -/
theorem gone_iff_deleted (shows : trade.Shows order after) :
    after.find? order.key = none ↔ trade.header.action = Action.delete :=
  shows.gone_iff.trans shows.deleted.symm

end Trade.Shows

/-- A trade booked against the order its key finds on a well-formed side, by a positive
quantity within what the order has left, shows that order on the side filled by it, when it
reports the filled order and shows it deleted exactly when nothing remains. -/
theorem BookSide.WellFormed.shows_fill {side : BookSide} (wellFormed : side.WellFormed)
    {key : OrderKey} {order : MarketEvent} (found : side.find? key = some order) {trade : Trade}
    (reports : trade.Reports (trade.bookedOn order.header))
    (positive : 0 < trade.execution.execQty)
    (within : trade.execution.execQty ≤ order.header.remainingQty)
    (deleted : trade.header.action = Action.delete ↔ trade.header.remainingQty = 0) :
    trade.Shows order (side.fill key (trade.bookedOn order.header)) := by
  have keyed : order.key = key := wellFormed.key_of_find? found
  have sameKey : (trade.bookedOn order.header).key = key := keyed
  have balanced := wellFormed.balanced order (wellFormed.mem_of_find? found)
  have taken := Header.remainingQty_applyExecution trade.execution.execPrice balanced positive within
  refine ⟨reports, positive, within, reports.remainingQty ▸ taken, deleted, ?_⟩
  rw [keyed, reports.remainingQty]
  by_cases exhausted : (trade.bookedOn order.header).remainingQty = 0
  · rw [if_pos exhausted]
    exact (wellFormed.fill_exhausted found _ sameKey exhausted).1
  · rw [if_neg exhausted]
    exact BookSide.find?_fill_self found exhausted

/-- A trade the book settles itself: it is a fill, and shows its order deleted, exactly when
nothing of the order remains. -/
structure Trade.Settled (trade : Trade) : Prop where
  complete : trade.complete = true ↔ trade.header.remainingQty = 0
  deleted : trade.header.action = Action.delete ↔ trade.header.remainingQty = 0

namespace Trade

theorem settled_settle (header : Header) (execution : Execution) :
    (Trade.settle header execution).Settled := by
  unfold Trade.settle
  by_cases exhausted : header.remainingQty = 0
  · exact ⟨by simp [exhausted], by simp [exhausted]⟩
  · exact ⟨by simp [exhausted], by simp [exhausted, Action.delete, Action.change]⟩

/-- Stamping a trade with a time keeps it settled. -/
theorem Settled.stamp {trade : Trade} (settled : trade.Settled) (now : Instant) :
    (trade.withHeader { trade.header with transactTime := now }).Settled :=
  ⟨settled.complete, settled.deleted⟩

end Trade

theorem PriceTime.settled_tradeAgainst (aggressor resting : Header) :
    (PriceTime.tradeAgainst aggressor resting).Settled := by
  unfold PriceTime.tradeAgainst
  by_cases exhausted :
      (aggressor.applyExecution (min aggressor.remainingQty resting.remainingQty)
        (if resting.isMarket then aggressor.price else resting.price)).remainingQty = 0
  · exact ⟨by simp [exhausted], by simp [exhausted]⟩
  · exact ⟨by simp [exhausted], by simp [exhausted, Action.delete, Action.change]⟩

/-- One round of matching as its two trades show it. The aggressor under `key` on `side` and
the resting order against it were booked with one execution; the tape gained the aggressor's
trade and then the resting order's; each trade shows its order on its side after the round, and
each is a fill exactly when its order left its side in the round. -/
inductive ShownRound (side : Side) (key : OrderKey) : OrderBook ρ → OrderBook ρ → Prop
  | traded {book after : OrderBook ρ} {aggressor resting : MarketEvent} {trade counter : Trade}
      (found : (book.sideOf side).find? key = some aggressor)
      (contra : (book.oppositeOf side).find? resting.key = some resting)
      (taped : after.tape = (book.tape.push trade).push counter)
      (sameQty : counter.execution.execQty = trade.execution.execQty)
      (samePrice : counter.execution.execPrice = trade.execution.execPrice)
      (aggressorShown : trade.Shows aggressor (after.sideOf side))
      (restingShown : counter.Shows resting (after.oppositeOf side))
      (aggressorLeft : trade.complete = true ↔ (after.sideOf side).find? key = none)
      (restingLeft : counter.complete = true ↔ (after.oppositeOf side).find? resting.key = none) :
      ShownRound side key book after

/-- A settled trade that shows its order is a fill exactly when the order left its side. -/
theorem Trade.Shows.complete_iff {trade : Trade} {order : MarketEvent} {after : BookSide}
    (shows : trade.Shows order after) (settled : trade.Settled) :
    trade.complete = true ↔ after.find? order.key = none :=
  settled.complete.trans shows.gone_iff.symm

/-- Both trades of a round of matching in a well-formed book show their orders on their sides
in the book the round leaves. -/
theorem OrderBook.WellFormed.round_shows {book : OrderBook ρ} (wellFormed : book.WellFormed)
    {side : Side} {key : OrderKey} (now : Instant) {aggressor resting : MarketEvent}
    {trade : Trade} (found : (book.sideOf side).find? key = some aggressor)
    (live : 0 < aggressor.header.remainingQty)
    (chosen : book.tradeFor aggressor (book.oppositeOf side).orders = some trade)
    (contra : (book.oppositeOf side).find? trade.contraKey = some resting) :
    let after := book.afterRound side key now aggressor resting trade
    let counter := trade.counterpart resting.header
    (trade.withHeader { trade.header with transactTime := now }).Shows aggressor
        (after.sideOf side) ∧
      (counter.withHeader { counter.header with transactTime := now }).Shows resting
        (after.oppositeOf side) := by
  obtain ⟨fillsAggressor, fillsResting⟩ := wellFormed.round_fillable found live chosen contra
  obtain ⟨-, -, rfl⟩ := wellFormed.matchRound_trade found chosen contra
  set trade := PriceTime.tradeAgainst aggressor.header resting.header
  set stamped := trade.withHeader { trade.header with transactTime := now }
  set counter := trade.counterpart resting.header
  set stampedCounter := counter.withHeader { counter.header with transactTime := now }
  -- The book after the round: each side filled once, the two trades on the tape.
  have ownSide : (book.afterRound side key now aggressor resting trade).sideOf side =
      (book.sideOf side).fill key (stamped.bookedOn aggressor.header) := by
    simp [OrderBook.afterRound, stamped, Trade.bookedOn, Trade.withHeader]
  have otherSide : (book.afterRound side key now aggressor resting trade).oppositeOf side =
      (book.oppositeOf side).fill trade.contraKey (stampedCounter.bookedOn resting.header) := by
    simp [OrderBook.afterRound, stampedCounter, counter, Trade.counterpart, Trade.bookedOn,
      Trade.withHeader]
  -- The counterpart books the trade's own execution against the resting order.
  have counterBooked : stampedCounter.bookedOn resting.header =
      resting.header.applyExecution trade.execution.execQty trade.execution.execPrice := by
    simp [stampedCounter, counter, Trade.counterpart, Trade.bookedOn, Trade.withHeader]
  refine ⟨?_, ?_⟩
  · rw [ownSide]
    exact (wellFormed.sideOf side).shows_fill found (Trade.reports_tradeAgainst _ _ now)
      fillsAggressor.2.1 fillsAggressor.2.2 ((PriceTime.settled_tradeAgainst _ _).stamp now).deleted
  · rw [otherSide]
    refine (wellFormed.oppositeOf side).shows_fill contra ?_ ?_ ?_
      ((Trade.settled_settle _ _).stamp now).deleted
    · rw [counterBooked]
      exact Trade.reports_settle _ _ now
    · simpa [stampedCounter, counter, Trade.counterpart, Trade.withHeader] using fillsResting.2.1
    · simpa [stampedCounter, counter, Trade.counterpart, Trade.withHeader] using fillsResting.2.2

/-- Every round of matching in a well-formed book is a shown round: the strategy's trade and
its counterpart, booked on copies of the two headers, carry what `BookM.fillOrder` leaves of
the two orders in the book. -/
theorem MatchRound.shown {book after : OrderBook ρ} (wellFormed : book.WellFormed)
    {side : Side} {key : OrderKey} {now : Instant}
    (round : MatchRound side key now book after) : ShownRound side key book after := by
  cases round with
  | @traded aggressor resting trade found live chosen contra =>
    obtain ⟨aggressorShown, restingShown⟩ := wellFormed.round_shows now found live chosen contra
    obtain ⟨-, -, rfl⟩ := wellFormed.matchRound_trade found chosen contra
    have aggressorKey : aggressor.key = key := (wellFormed.sideOf side).key_of_find? found
    have restingKey : resting.key = (PriceTime.tradeAgainst aggressor.header resting.header).contraKey :=
      (wellFormed.oppositeOf side).key_of_find? contra
    set trade := PriceTime.tradeAgainst aggressor.header resting.header
    set stamped := trade.withHeader { trade.header with transactTime := now }
    set counter := trade.counterpart resting.header
    set stampedCounter := counter.withHeader { counter.header with transactTime := now }
    have aggressorSettled : stamped.Settled := (PriceTime.settled_tradeAgainst _ _).stamp now
    have counterSettled : stampedCounter.Settled := (Trade.settled_settle _ _).stamp now
    -- Both trades carry one execution, and the round tapes them in order.
    have sameQty : stampedCounter.execution.execQty = stamped.execution.execQty := by
      simp [stampedCounter, counter, stamped, Trade.counterpart, Trade.withHeader]
    have samePrice : stampedCounter.execution.execPrice = stamped.execution.execPrice := by
      simp [stampedCounter, counter, stamped, Trade.counterpart, Trade.withHeader]
    have taped : (book.afterRound side key now aggressor resting trade).tape =
        (book.tape.push stamped).push stampedCounter := by
      simp [OrderBook.afterRound, stamped, stampedCounter, counter]
    exact .traded found (restingKey ▸ contra) taped sameQty samePrice aggressorShown restingShown
      (aggressorKey ▸ aggressorShown.complete_iff aggressorSettled)
      (restingShown.complete_iff counterSettled)

/-- Rounds of matching from a well-formed book are shown rounds. -/
theorem MatchRound.shown_of_rounds {start book : OrderBook ρ} {side : Side} {key : OrderKey}
    {now : Instant} (rounds : Relation.ReflTransGen (MatchRound side key now) start book)
    (wellFormed : start.WellFormed) : Relation.ReflTransGen (ShownRound side key) start book := by
  induction rounds with
  | refl => exact .refl
  | tail earlier round inductionHypothesis =>
    -- Each round starts from a book the rounds before it kept well formed.
    exact inductionHypothesis.tail (round.shown (MatchRound.wellFormed_of_rounds earlier wellFormed))

namespace Trade

/-- The quantity the book takes off an order for an outside trade, given what the order has
left: all of it for a fill; for a partial fill the trade's own quantity when it is positive and
within what is left, and all that is left otherwise. -/
def appliedQty (trade : Trade) (remaining : Int64) : Int64 :=
  if trade.complete then remaining
  else if 0 < trade.execution.execQty ∧ trade.execution.execQty ≤ remaining then
    trade.execution.execQty
  else remaining

/-- The price the book applies for an outside trade: the trade's own, or the order's limit when
the trade has none. -/
def appliedPrice (trade : Trade) (limit : Decimal) : Decimal :=
  if trade.execution.execPrice.isZero then limit else trade.execution.execPrice

end Trade

/-- An outside trade as the book applies it to `book`, leaving `after`. When the order the trade
names rests on the side of its side code with something left, the book takes the quantity it
chooses off the order at the price it applies, and tapes one trade, `applied`, which keeps the
outside trade's kind and shows the order. Otherwise the book is left as it was. -/
inductive AppliedTrade (trade : Trade) : OrderBook ρ → OrderBook ρ → Prop
  | applied {book after : OrderBook ρ} {resting : MarketEvent} {applied : Trade}
      (found : (book.sideOf trade.header.side).find? trade.header.key = some resting)
      (taped : after.tape = book.tape.push applied)
      (kind : applied.complete = trade.complete)
      (qty : applied.execution.execQty = trade.appliedQty resting.header.remainingQty)
      (price : applied.execution.execPrice = trade.appliedPrice resting.header.price)
      (shown : applied.Shows resting (after.sideOf trade.header.side)) :
      AppliedTrade trade book after
  | untouched {book : OrderBook ρ}
      (nothingLeft : ∀ resting, (book.sideOf trade.header.side).find? trade.header.key =
        some resting → resting.header.remainingQty = 0) :
      AppliedTrade trade book book

namespace Trade

variable (trade : Trade) {remaining : Int64}

/-- For an order with something left, the quantity the book takes is positive and within what
is left. -/
theorem appliedQty_within (live : 0 < remaining) :
    0 < trade.appliedQty remaining ∧ trade.appliedQty remaining ≤ remaining := by
  unfold appliedQty
  split
  · exact ⟨live, Int64.le_refl _⟩
  · split
    · assumption
    · exact ⟨live, Int64.le_refl _⟩

/-! The three ways `BookM.applyTrade` chooses the quantity, each the quantity `appliedQty`
names. -/

theorem appliedQty_of_complete (complete : trade.complete = true) :
    trade.appliedQty remaining = remaining := by
  simp [appliedQty, complete]

theorem appliedQty_of_clamped (partialFill : ¬trade.complete = true)
    (outside : (trade.execution.execQty ≤ 0 || trade.execution.execQty > remaining) = true) :
    trade.appliedQty remaining = remaining := by
  have refused : ¬(0 < trade.execution.execQty ∧ trade.execution.execQty ≤ remaining) := by
    simp only [Bool.or_eq_true, decide_eq_true_eq] at outside
    rintro ⟨positive, within⟩
    rcases outside with nonPositive | beyond
    · exact absurd positive (Int64.not_lt.mpr nonPositive)
    · exact absurd within (Int64.not_le.mpr beyond)
  simp [appliedQty, partialFill, refused]

theorem appliedQty_of_inside (partialFill : ¬trade.complete = true)
    (inside : ¬(trade.execution.execQty ≤ 0 || trade.execution.execQty > remaining) = true) :
    trade.appliedQty remaining = trade.execution.execQty := by
  simp only [Bool.or_eq_true, decide_eq_true_eq, not_or] at inside
  have accepted : 0 < trade.execution.execQty ∧ trade.execution.execQty ≤ remaining :=
    ⟨Int64.not_le.mp inside.1, Int64.not_lt.mp inside.2⟩
  simp [appliedQty, partialFill, accepted]

end Trade

namespace OrderBook.WellFormed

variable {book : OrderBook ρ} {trade : Trade} {resting : MarketEvent}

/-- The trade the book tapes for an outside trade that fills the resting order by `qty` shows
the order on its side of the book it leaves: the trade copies the filled order's quantities and
shows it deleted when nothing of it remains. -/
theorem shows_applied (wellFormed : book.WellFormed) (now : Instant)
    (found : (book.sideOf trade.header.side).find? trade.header.key = some resting) {qty : Int64}
    (whole : trade.complete = true → qty = resting.header.remainingQty)
    (fillable : book.Fillable trade.header.side false trade.header.key qty resting) :
    let filled := resting.header.applyExecution qty (trade.appliedPrice resting.header.price)
    let applied : Trade := ⟨trade.complete,
      { trade.header with
        orderQty := filled.orderQty, cumQty := filled.cumQty,
        remainingQty := filled.remainingQty, avgPrice := filled.avgPrice,
        action := if filled.remainingQty == 0 then Action.delete else Action.change,
        transactTime := if trade.header.transactTime.isZero then now else trade.header.transactTime },
      { trade.execution with
        execQty := qty, execPrice := trade.appliedPrice resting.header.price }⟩
    applied.Shows resting
      (((book.fill trade.header.side false trade.header.key filled).record applied).sideOf
        trade.header.side) := by
  intro filled applied
  have named : resting.header.key = trade.header.key :=
    (wellFormed.sideOf trade.header.side).key_of_find? found
  have booked : applied.bookedOn resting.header = filled := rfl
  simp only [OrderBook.sideOf_record, OrderBook.sideOf_fill_own]
  rw [← booked]
  refine (wellFormed.sideOf trade.header.side).shows_fill found
    ⟨named.symm, rfl, rfl, rfl, rfl, ?_⟩ fillable.2.1 fillable.2.2 ?_
  · -- A fill takes all the order had left.
    intro complete
    have balanced := (wellFormed.sideOf trade.header.side).balanced resting
      ((wellFormed.sideOf trade.header.side).mem_of_find? found)
    exact (balanced.remainingQty_applyExecution_eq_zero _ fillable.2.1 fillable.2.2).mpr
      (whole complete)
  · by_cases exhausted : filled.remainingQty = 0 <;>
      simp [applied, exhausted, Action.delete, Action.change]

/-- Filling the order an outside trade names by the quantity the book chooses, at the price it
applies, and taping the trade with the filled order's quantities, applies the trade. -/
theorem appliedTrade (wellFormed : book.WellFormed) (now : Instant)
    (found : (book.sideOf trade.header.side).find? trade.header.key = some resting)
    {qty : Int64} (chosen : qty = trade.appliedQty resting.header.remainingQty) {filled : Header}
    (fills : ∃ order, book.Fillable trade.header.side false trade.header.key qty order ∧
      filled = order.header.applyExecution qty (trade.appliedPrice resting.header.price))
    {applied : Trade}
    (copied : applied = ⟨trade.complete,
      { trade.header with
        orderQty := filled.orderQty, cumQty := filled.cumQty,
        remainingQty := filled.remainingQty, avgPrice := filled.avgPrice,
        action := if filled.remainingQty == 0 then Action.delete else Action.change,
        transactTime := if trade.header.transactTime.isZero then now else trade.header.transactTime },
      { trade.execution with
        execQty := qty, execPrice := trade.appliedPrice resting.header.price }⟩) :
    AppliedTrade trade book ((book.fill trade.header.side false trade.header.key filled).record applied) := by
  obtain ⟨order, fillable, rfl⟩ := fills
  obtain rfl : resting = order := (fillable.eq_of_find found).symm
  refine @AppliedTrade.applied ρ trade book _ resting applied found (by simp) (by rw [copied])
    (by rw [copied]; exact chosen) (by rw [copied]) ?_
  subst copied
  exact wellFormed.shows_applied now found
    (fun complete => chosen.trans (trade.appliedQty_of_complete complete)) fillable

/-- When the book refuses to fill the order an outside trade names by the quantity it chose,
the order had nothing left, and the trade leaves the book as it was. -/
theorem untouched_of_refused (wellFormed : book.WellFormed)
    (found : (book.sideOf trade.header.side).find? trade.header.key = some resting)
    (refused : ∀ order, ¬book.Fillable trade.header.side false trade.header.key
      (trade.appliedQty resting.header.remainingQty) order) :
    AppliedTrade trade book book := by
  refine .untouched fun other foundOther => ?_
  obtain rfl : resting = other := Option.some.inj (found.symm.trans foundOther)
  have nonnegative := ((wellFormed.sideOf trade.header.side).balanced resting
    ((wellFormed.sideOf trade.header.side).mem_of_find? found)).2
  by_contra live
  have positive : 0 < resting.header.remainingQty := by
    rw [Int64.lt_iff_toInt_lt, Int64.toInt_zero]
    have : resting.header.remainingQty.toInt ≠ 0 := fun zero => live (Int64.toInt_inj.mp zero)
    omega
  exact refused resting ⟨found, trade.appliedQty_within positive⟩

end OrderBook.WellFormed

namespace BookM

variable {deliver : Delivery ρ σ} {allow : BookRequest → Prop}

theorem applyTrade_agrees (asks : deliver.Asks allow) (now : Instant) (trade : Trade)
    (current : OrderBook ρ) (wellFormed : current.WellFormed) :
    ⦃fun run => ⌜run.book = current ∧ current.AdmitsAll allow run.pending⌝⦄
      applyTrade deliver now trade
    ⦃post⟨fun _ run => ⌜AppliedTrade trade current run.book⌝,
      fun _ run => ⌜AppliedTrade trade current run.book⌝⟩⦄ := by
  have publishSpec := publish_spec asks
  mvcgen [applyTrade, book, log, note, fillOrder_spec, record_spec, publishSpec]
  all_goals obtain ⟨rfl, admitted⟩ := ‹_ = current ∧ _›
  · -- The trade names no resting order: nothing changes.
    exact .untouched fun _ found => absurd (found.symm.trans ‹_ = none›) (Option.some_ne_none _)
  -- A fill takes all that remains.
  · exact wellFormed
  · obtain ⟨-, -, -, filledBook, filledPending⟩ := ‹∃ order, _›
    obtain ⟨recordedBook, recordedPending⟩ := ‹(_ : BookRun ρ σ).book = OrderBook.record _ _ ∧ _›
    rw [recordedPending, filledPending]
    exact ⟨trivial, admitted.of_symbol (by rw [recordedBook, filledBook]; simp +zetaDelta)⟩
  iterate 2
    · intro publishedBook _
      obtain ⟨order, fillable, filled, filledBook, -⟩ := ‹∃ order, _›
      obtain ⟨recordedBook, -⟩ := ‹(_ : BookRun ρ σ).book = OrderBook.record _ _ ∧ _›
      rw [publishedBook, recordedBook, filledBook]
      exact wellFormed.appliedTrade now ‹_› (trade.appliedQty_of_complete ‹_›).symm ⟨order, fillable, filled⟩ rfl
  · -- The order had nothing left to fill.
    intro refused stoppedBook _
    rw [stoppedBook]
    exact wellFormed.untouched_of_refused ‹_› (by rw [trade.appliedQty_of_complete ‹_›]; exact refused)
  -- A partial fill whose quantity is out of range takes all that remains.
  · exact wellFormed
  · obtain ⟨-, -, -, filledBook, filledPending⟩ := ‹∃ order, _›
    obtain ⟨recordedBook, recordedPending⟩ := ‹(_ : BookRun ρ σ).book = OrderBook.record _ _ ∧ _›
    rw [recordedPending, filledPending]
    exact ⟨trivial, admitted.of_symbol (by rw [recordedBook, filledBook]; simp +zetaDelta)⟩
  iterate 2
    · intro publishedBook _
      obtain ⟨order, fillable, filled, filledBook, -⟩ := ‹∃ order, _›
      obtain ⟨recordedBook, -⟩ := ‹(_ : BookRun ρ σ).book = OrderBook.record _ _ ∧ _›
      rw [publishedBook, recordedBook, filledBook]
      exact wellFormed.appliedTrade now ‹_› (trade.appliedQty_of_clamped ‹_› ‹_›).symm ⟨order, fillable, filled⟩ rfl
  · -- The order had nothing left to fill.
    intro refused stoppedBook _
    rw [stoppedBook]
    exact wellFormed.untouched_of_refused ‹_› (by rw [trade.appliedQty_of_clamped ‹_› ‹_›]; exact refused)
  -- A partial fill within range takes its own quantity.
  · exact wellFormed
  · obtain ⟨-, -, -, filledBook, filledPending⟩ := ‹∃ order, _›
    obtain ⟨recordedBook, recordedPending⟩ := ‹(_ : BookRun ρ σ).book = OrderBook.record _ _ ∧ _›
    rw [recordedPending, filledPending]
    exact ⟨trivial, admitted.of_symbol (by rw [recordedBook, filledBook]; simp +zetaDelta)⟩
  iterate 2
    · intro publishedBook _
      obtain ⟨order, fillable, filled, filledBook, -⟩ := ‹∃ order, _›
      obtain ⟨recordedBook, -⟩ := ‹(_ : BookRun ρ σ).book = OrderBook.record _ _ ∧ _›
      rw [publishedBook, recordedBook, filledBook]
      exact wellFormed.appliedTrade now ‹_› (trade.appliedQty_of_inside ‹_› ‹_›).symm ⟨order, fillable, filled⟩ rfl
  · -- The order had nothing left to fill.
    intro refused stoppedBook _
    rw [stoppedBook]
    exact wellFormed.untouched_of_refused ‹_› (by rw [trade.appliedQty_of_inside ‹_› ‹_›]; exact refused)

/-- Matching an order of a well-formed book, with the fuel `place` gives it, goes through shown
rounds, and when it returns the order has no trade left. -/
theorem matchOrder_agrees (asks : deliver.Asks allow) (now : Instant) (side : Side)
    (key : OrderKey) (rounds : Nat) (current : OrderBook ρ) (wellFormed : current.WellFormed)
    (enough : (current.sideOf side).find? key = none ∨ (current.oppositeOf side).size < rounds) :
    ⦃fun run => ⌜run.book = current ∧ current.AdmitsAll allow run.pending⌝⦄
      matchOrder deliver now side key rounds
    ⦃post⟨fun _ run => ⌜Relation.ReflTransGen (ShownRound side key) current run.book ∧
        MatchDone side key run.book⌝,
      fun _ run => ⌜Relation.ReflTransGen (ShownRound side key) current run.book⌝⟩⦄ := by
  have matchSpec := matchOrder_spec asks now side key rounds current
  mvcgen [matchSpec]
  · obtain ⟨sameBook, admitted⟩ := ‹_ = current ∧ _›
    exact ⟨sameBook, wellFormed, enough, admitted⟩
  · intro matched done _
    exact ⟨MatchRound.shown_of_rounds matched wellFormed, done⟩
  · intro matched _
    exact MatchRound.shown_of_rounds matched wellFormed

/-- Published trades agree with the book. In a well-formed book, every run of `matchOrder`
(with the fuel `place` gives it) goes through shown rounds: each round tapes and publishes the
aggressor's trade, priced by the strategy on a copy of the aggressor's header, and the resting
order's, booked by `Trade.counterpart` on a copy of the resting order's header, and each carries
the quantities and average price `fillOrder` leaves on its order and is a fill exactly when its
order left its side; matching returns only once the order has no trade left. `applyTrade` tapes
and publishes the trade it applied with the order's new quantities, the quantity it took off
and the price it applied, showing the order deleted exactly when it left the book, and applies
an outside trade exactly when the order it names rests with something left. All of this holds
whether the computation returns or a subscriber stops it. -/
theorem published_trades_agree (asks : deliver.Asks allow) (now : Instant) {current : OrderBook ρ}
    (wellFormed : current.WellFormed) :
    (∀ (side : Side) (key : OrderKey) (rounds : Nat),
      ((current.sideOf side).find? key = none ∨ (current.oppositeOf side).size < rounds) →
      ⦃fun run => ⌜run.book = current ∧ current.AdmitsAll allow run.pending⌝⦄
        matchOrder deliver now side key rounds
      ⦃post⟨fun _ run => ⌜Relation.ReflTransGen (ShownRound side key) current run.book ∧
          MatchDone side key run.book⌝,
        fun _ run => ⌜Relation.ReflTransGen (ShownRound side key) current run.book⌝⟩⦄) ∧
    ∀ trade : Trade,
      ⦃fun run => ⌜run.book = current ∧ current.AdmitsAll allow run.pending⌝⦄
        applyTrade deliver now trade
      ⦃post⟨fun _ run => ⌜AppliedTrade trade current run.book⌝,
        fun _ run => ⌜AppliedTrade trade current run.book⌝⟩⦄ :=
  ⟨fun side key rounds enough => matchOrder_agrees asks now side key rounds current wellFormed enough,
    fun trade => applyTrade_agrees asks now trade current wellFormed⟩

end BookM

section Sample

/-! A sample book: an offer for five at 90 rests, then a bid for ten at 100 is placed against
it, so that matching the bid trades. -/

/-- An offer for five at 90. -/
def restingOffer : MarketEvent :=
  .offer { Header.empty with
    clientId := "s", clientOrderId := "o1", side := Side.sell, orderQty := 5, remainingQty := 5,
    price := Decimal.ofInt 90 }

/-- A bid for ten at 100. -/
def crossingBid : MarketEvent :=
  .bid { Header.empty with
    clientId := "c", clientOrderId := "b1", side := Side.buy, orderQty := 10, remainingQty := 10,
    price := Decimal.ofInt 100 }

/-- The book with the offer resting and the bid just placed. -/
def crossingBook : OrderBook Unit :=
  ((OrderBook.empty "ACME" .priceTime).placeOrder Instant.zero restingOffer).placeOrder
    Instant.zero crossingBid

theorem crossingBook_wellFormed : crossingBook.WellFormed :=
  ((OrderBook.WellFormed.empty "ACME" .priceTime).placeOrder Instant.zero rfl rfl rfl).placeOrder
    Instant.zero rfl rfl rfl

end Sample

/-- Matching the bid of the sample book, with the fuel `place` gives it, goes through shown
rounds. -/
theorem crossing_bid_trades_agree :
    quietDelivery.Asks (fun _ => True) ∧ crossingBook.WellFormed ∧
      (crossingBook.oppositeOf Side.buy).size < 2 ∧
      ⦃fun run => ⌜run.book = crossingBook ∧ crossingBook.AdmitsAll (fun _ => True) run.pending⌝⦄
        BookM.matchOrder quietDelivery Instant.zero Side.buy crossingBid.key 2
      ⦃post⟨fun _ run => ⌜Relation.ReflTransGen (ShownRound Side.buy crossingBid.key) crossingBook
          run.book ∧ MatchDone Side.buy crossingBid.key run.book⌝,
        fun _ run => ⌜Relation.ReflTransGen (ShownRound Side.buy crossingBid.key) crossingBook
          run.book⌝⟩⦄ :=
  have asks : quietDelivery.Asks (fun _ => True) := fun _ _ _ _ _ _ _ => trivial
  have enough : (crossingBook.oppositeOf Side.buy).size < 2 := by decide
  ⟨asks, crossingBook_wellFormed, enough,
    (BookM.published_trades_agree asks Instant.zero crossingBook_wellFormed).1 Side.buy
      crossingBid.key 2 (.inr enough)⟩

end Bourse
