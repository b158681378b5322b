import Bourse.Proofs.Run.Reach

/-!
# Quantity is conserved along the tape

When every trade on the tape comes from matching, the tape and the resting orders agree
(`OrderBook.TapeConserves`). The tape is the trades of match steps two by two, the aggressor's
then the resting order's (`Trade.Matched`): the same positive quantity at the same price, one
of them a buy, each naming the other's order, each reporting its order after the step with no
more executed than it had. And every resting order is accounted for by the tape
(`Accounted`): since it was placed, its cumulative quantity grew, and what remains of it
shrank, by the quantities of exactly the trades recorded for its side and key. The side
matters, since a key may rest on both sides at once; the placement matters, since a key may
come back once its order has left.

A round of matching puts one pair on the tape and fills the two orders by its quantity; a
placement starts a new account at the tape's end; a delete only takes an order off. So the
agreement holds on every run, stopped calls included (`Reachable.tape_conserves`), and with
it the tape's totals: what was bought is what was sold.
-/

namespace Bourse

variable {ρ σ : Type}

/-- An order is no trade. -/
theorem MarketEvent.ofEvent?_eq_none_of_isOrder {event : MarketEvent}
    (isOrder : event.isOrder = true) : Trade.ofEvent? event = none := by
  cases event <;> simp_all [MarketEvent.isOrder, Trade.ofEvent?]

namespace Trade

/-- Whether a trade reports the order with `key` on the side that buys when `buying`. -/
def RecordedFor (buying : Bool) (key : OrderKey) (trade : Trade) : Bool :=
  trade.header.side.isBuy == buying && trade.header.key == key

/-- The two trades of one match step, the aggressor's and the resting order's. -/
structure Matched (aggressor counterpart : Trade) : Prop where
  /-- Both execute the same quantity... -/
  sameQty : counterpart.execution.execQty = aggressor.execution.execQty
  /-- ...which is positive... -/
  positive : 0 < aggressor.execution.execQty
  /-- ...at the same price. -/
  samePrice : counterpart.execution.execPrice = aggressor.execution.execPrice
  /-- Exactly one of the two orders buys. -/
  oneBuys : counterpart.header.side.isBuy = !aggressor.header.side.isBuy
  /-- The aggressor's trade names the resting order... -/
  namesCounterpart : aggressor.execution.contraClientId = counterpart.header.clientId ∧
    aggressor.execution.contraOrderId = counterpart.header.clientOrderId
  /-- ...and the resting order's trade names the aggressor. -/
  namesAggressor : counterpart.execution.contraClientId = aggressor.header.clientId ∧
    counterpart.execution.contraOrderId = aggressor.header.clientOrderId
  /-- Each reports its order after the step, with no more executed than it had. -/
  aggressorBalanced : aggressor.header.Balanced
  counterpartBalanced : counterpart.header.Balanced

end Trade

/-- The trades of match steps, two by two, in order. -/
def pairTrades (pairs : List (Trade × Trade)) : List Trade :=
  pairs.flatMap fun pair => [pair.1, pair.2]

/-- The quantity the trades of a list executed for the orders that buy when `buying`. -/
def executedBy (buying : Bool) (trades : List Trade) : Int :=
  ((trades.filter fun trade => trade.header.side.isBuy == buying).map
    fun trade => trade.execution.execQty.toInt).sum

/-- The quantity the trades of a list executed for the order with `key` on the side that buys
when `buying`. -/
def executedFor (buying : Bool) (key : OrderKey) (trades : List Trade) : Int :=
  ((trades.filter (Trade.RecordedFor buying key)).map fun trade => trade.execution.execQty.toInt).sum

/-- On a tape of match steps, what was bought is what was sold. -/
theorem executedBy_pairTrades {pairs : List (Trade × Trade)}
    (matched : ∀ pair ∈ pairs, Trade.Matched pair.1 pair.2) :
    executedBy true (pairTrades pairs) = executedBy false (pairTrades pairs) := by
  induction pairs with
  | nil => rfl
  | cons pair rest inductionHypothesis =>
    have step := matched pair List.mem_cons_self
    have restBalanced := inductionHypothesis fun other member =>
      matched other (List.mem_cons_of_mem _ member)
    simp only [executedBy, pairTrades, List.flatMap_cons, List.filter_append,
      List.map_append, List.sum_append] at restBalanced ⊢
    -- Each step adds its quantity once to the bought side and once to the sold side.
    cases buys : pair.1.header.side.isBuy <;>
      simp [buys, step.oneBuys, step.sameQty] at restBalanced ⊢ <;> omega

/-- The trades recorded for an order from position `mark` on: only a trade can add to them. -/
theorem executedFor_drop_append {tape : List Trade} {mark : Nat} (within : mark ≤ tape.length)
    (more : List Trade) (buying : Bool) (key : OrderKey) :
    executedFor buying key ((tape ++ more).drop mark) =
      executedFor buying key (tape.drop mark) + executedFor buying key more := by
  simp [executedFor, List.drop_append_of_le_length within, List.filter_append]

/-- An order is accounted for by a tape when, since its latest placement, its cumulative
quantity grew, and what remains of it shrank, by the quantities the tape recorded for it. -/
def Accounted (tape : List Trade) (history : List Placement) (buying : Bool)
    (order : MarketEvent) : Prop :=
  ∃ placement, latestPlacement history buying order.key = some placement ∧
    placement.tapeMark ≤ tape.length ∧
    order.header.cumQty.toInt = placement.header.cumQty.toInt +
      executedFor buying order.key (tape.drop placement.tapeMark) ∧
    order.header.remainingQty.toInt = placement.header.remainingQty.toInt -
      executedFor buying order.key (tape.drop placement.tapeMark)

namespace Accounted

variable {tape : List Trade} {history : List Placement} {buying : Bool} {order : MarketEvent}

/-- New trades on the tape keep an order accounted for when its quantities moved by what they
recorded for it. -/
theorem append (accounted : Accounted tape history buying order) (more : List Trade)
    {filled : MarketEvent} (sameKey : filled.key = order.key)
    (cum : filled.header.cumQty.toInt =
      order.header.cumQty.toInt + executedFor buying order.key more)
    (remaining : filled.header.remainingQty.toInt =
      order.header.remainingQty.toInt - executedFor buying order.key more) :
    Accounted (tape ++ more) history buying filled := by
  obtain ⟨placement, latest, marked, cumSince, remainingSince⟩ := accounted
  have grown := executedFor_drop_append marked more buying order.key
  refine ⟨placement, sameKey ▸ latest, ?_, ?_, ?_⟩
  · simp only [List.length_append]
    omega
  · rw [sameKey, grown, cum, cumSince]
    omega
  · rw [sameKey, grown, remaining, remainingSince]
    omega

/-- A placement elsewhere keeps an order accounted for. -/
theorem cons_of_elsewhere (accounted : Accounted tape history buying order) {placement : Placement}
    (elsewhere : placement.places buying order.key = false) :
    Accounted tape (placement :: history) buying order := by
  rw [Accounted, latestPlacement_cons_of_not_places elsewhere]
  exact accounted

/-- An order placed at the tape's end, as placed, is accounted for. -/
theorem placed {placement : Placement}
    (latest : latestPlacement history buying order.key = some placement)
    (marked : placement.tapeMark = tape.length)
    (cum : order.header.cumQty = placement.header.cumQty)
    (remaining : order.header.remainingQty = placement.header.remainingQty) :
    Accounted tape history buying order := by
  have nothing : executedFor buying order.key (tape.drop placement.tapeMark) = 0 := by
    simp [marked, executedFor]
  exact ⟨placement, latest, marked.le, by rw [nothing, cum]; omega,
    by rw [nothing, remaining]; omega⟩

end Accounted

/-- The orders of a side are accounted for by a tape. -/
def BookSide.Accounted (side : BookSide) (tape : List Trade) (history : List Placement) : Prop :=
  ∀ order ∈ side.orders, Bourse.Accounted tape history side.buying order

/-- The tape of a book and the orders resting on it agree. -/
structure OrderBook.TapeConserves (book : OrderBook ρ) (history : List Placement) : Prop where
  /-- The tape is the trades of match steps, two by two. -/
  paired : ∃ pairs, book.tape.toList = pairTrades pairs ∧
    ∀ pair ∈ pairs, Trade.Matched pair.1 pair.2
  /-- The resting bids are accounted for by the tape. -/
  bids : book.bids.Accounted book.tape.toList history
  /-- The resting offers are accounted for by the tape. -/
  offers : book.offers.Accounted book.tape.toList history

/-- Both sides, seen from a side code. -/
theorem OrderBook.sides_of_code {book : OrderBook ρ} (property : BookSide → Prop) (side : Side)
    (own : property (book.sideOf side)) (against : property (book.oppositeOf side)) :
    property book.bids ∧ property book.offers := by
  unfold OrderBook.sideOf at own
  unfold OrderBook.oppositeOf at against
  by_cases buys : side.isBuy = true
  · simp only [buys, if_true] at own against
    exact ⟨own, against⟩
  · simp only [buys, Bool.false_eq_true, if_false] at own against
    exact ⟨against, own⟩

namespace OrderBook.TapeConserves

variable {book after : OrderBook ρ} {history : List Placement}

theorem sideOf (conserves : book.TapeConserves history) (side : Side) :
    (book.sideOf side).Accounted book.tape.toList history := by
  unfold OrderBook.sideOf
  split
  · exact conserves.bids
  · exact conserves.offers

theorem oppositeOf (conserves : book.TapeConserves history) (side : Side) :
    (book.oppositeOf side).Accounted book.tape.toList history := by
  unfold OrderBook.oppositeOf
  split
  · exact conserves.offers
  · exact conserves.bids

/-- The tape and the book agree when the tape is paired and both sides, seen from any side
code, are accounted for. -/
theorem of_sides (side : Side)
    (paired : ∃ pairs, book.tape.toList = pairTrades pairs ∧ ∀ pair ∈ pairs, Trade.Matched pair.1 pair.2)
    (own : (book.sideOf side).Accounted book.tape.toList history)
    (against : (book.oppositeOf side).Accounted book.tape.toList history) :
    book.TapeConserves history :=
  have sides := OrderBook.sides_of_code (fun orders => orders.Accounted book.tape.toList history)
    side own against
  ⟨paired, sides.1, sides.2⟩

end OrderBook.TapeConserves

namespace BookSide.Accounted

variable {side : BookSide} {tape : List Trade} {history : List Placement} {key : OrderKey}
  {order : MarketEvent}

/-- Filling an order by a positive quantity within what it has left keeps the side accounted
for, when the new trades record that quantity for the order and nothing for any other order of
the side. -/
theorem fill (accounted : side.Accounted tape history) (wellFormed : side.WellFormed)
    (found : side.find? key = some order) {qty : Int64} (positive : 0 < qty)
    (within : qty ≤ order.header.remainingQty) (price : Decimal) (more : List Trade)
    (executed : executedFor side.buying key more = qty.toInt)
    (others : ∀ other ∈ side.orders, other.key ≠ key → executedFor side.buying other.key more = 0) :
    (side.fill key (order.header.applyExecution qty price)).Accounted (tape ++ more) history := by
  have keyed := wellFormed.key_of_find? found
  have member := wellFormed.mem_of_find? found
  have balanced := wellFormed.balanced order member
  intro filled isMember
  rw [BookSide.buying_fill]
  have sameKey : (order.header.applyExecution qty price).key = key := keyed
  rcases wellFormed.mem_fill found sameKey isMember with ⟨old, otherKey⟩ | rfl
  · have nothing := others filled old otherKey
    exact (accounted filled old).append more rfl (by rw [nothing]; omega) (by rw [nothing]; omega)
  · -- The filled order moved by the quantity recorded for it.
    have added := Header.cumQty_applyExecution price balanced positive within
    have taken := Header.remainingQty_applyExecution price balanced positive within
    rw [← executed, ← keyed] at added taken
    exact (accounted order member).append more (by simp [sameKey, keyed]) (by simpa using added)
      (by simpa using taken)

end BookSide.Accounted

/-- The header of a settled trade is the order's, with the action of a fill or a partial fill. -/
theorem Trade.settle_header (header : Header) (execution : Execution) :
    (Trade.settle header execution).header =
      { header with action := if header.remainingQty == 0 then Action.delete else Action.change } := by
  unfold Trade.settle
  split <;> simp_all

namespace OrderBook.TapeConserves

variable {book after : OrderBook ρ} {history : List Placement} {side : Side} {key : OrderKey}
  {now : Instant}

/-- A round of matching puts its two trades on the tape and fills the two orders by their
quantity, which keeps the tape and the book in agreement. -/
theorem round (conserves : book.TapeConserves history) (wellFormed : book.WellFormed)
    (round : MatchRound side key now book after) : after.TapeConserves history := by
  cases round with
  | @traded aggressor resting _ found live chosen contra =>
    obtain ⟨restingMember, eligible, rfl⟩ := wellFormed.matchRound_trade found chosen contra
    obtain ⟨positive, withinAggressor, withinResting⟩ :=
      PriceTime.tradeAgainst_within live (PriceTime.live_of_eligible eligible)
    have aggressorMember := (wellFormed.sideOf side).mem_of_find? found
    have aggressorKey := (wellFormed.sideOf side).key_of_find? found
    have restingKey := (wellFormed.oppositeOf side).key_of_find? contra
    have aggressorBuys := (wellFormed.sideOf side).isBuy_of_mem aggressorMember
    have restingBuys := (wellFormed.oppositeOf side).isBuy_of_mem restingMember
    have againstBuys : (book.oppositeOf side).buying = !(book.sideOf side).buying := by
      rw [wellFormed.buying_oppositeOf, wellFormed.buying_sideOf]
    have aggressorBalanced := (wellFormed.sideOf side).balanced aggressor aggressorMember
    have restingBalanced := (wellFormed.oppositeOf side).balanced resting restingMember
    set trade := PriceTime.tradeAgainst aggressor.header resting.header with tradeEq
    set aggressorTrade := trade.withHeader { trade.header with transactTime := now }
    set restingTrade := (trade.counterpart resting.header).withHeader
      { (trade.counterpart resting.header).header with transactTime := now }
    -- What the round does: two trades on the tape, and a fill on each side.
    have tape : (book.afterRound side key now aggressor resting trade).tape.toList =
        book.tape.toList ++ [aggressorTrade, restingTrade] := by
      simp [OrderBook.afterRound, aggressorTrade, restingTrade]
    have own : (book.afterRound side key now aggressor resting trade).sideOf side =
        (book.sideOf side).fill key
          (aggressor.header.applyExecution trade.execution.execQty trade.execution.execPrice) := by
      simp [OrderBook.afterRound]
    have against : (book.afterRound side key now aggressor resting trade).oppositeOf side =
        (book.oppositeOf side).fill trade.contraKey
          (resting.header.applyExecution trade.execution.execQty trade.execution.execPrice) := by
      simp [OrderBook.afterRound]
    -- The aggressor's trade reports the aggressor, the resting order's trade the resting order.
    have aggressorTradeBuys : aggressorTrade.header.side.isBuy = (book.sideOf side).buying :=
      aggressorBuys
    have aggressorTradeKey : aggressorTrade.header.key = key := aggressorKey
    have restingTradeBuys : restingTrade.header.side.isBuy = (book.oppositeOf side).buying := by
      simpa [restingTrade, Trade.counterpart, Trade.settle_header, Trade.withHeader,
        Header.applyExecution] using restingBuys
    have restingTradeKey : restingTrade.header.key = trade.contraKey := by
      simpa [restingTrade, Trade.counterpart, Trade.settle_header, Trade.withHeader,
        Header.applyExecution, Header.key, MarketEvent.key] using restingKey
    have aggressorTradeQty : aggressorTrade.execution.execQty = trade.execution.execQty := rfl
    have restingTradeQty : restingTrade.execution.execQty = trade.execution.execQty := by
      simp [restingTrade, Trade.counterpart, Trade.withHeader]
    have matched : Trade.Matched aggressorTrade restingTrade := {
      sameQty := by simp [restingTrade, aggressorTrade, Trade.counterpart, Trade.withHeader]
      positive := positive
      samePrice := by simp [restingTrade, aggressorTrade, Trade.counterpart, Trade.withHeader]
      oneBuys := by rw [restingTradeBuys, againstBuys, aggressorTradeBuys]
      namesCounterpart := by
        simp [restingTrade, aggressorTrade, trade, Trade.counterpart, Trade.settle_header,
          Trade.withHeader, PriceTime.tradeAgainst, Header.applyExecution]
      namesAggressor := by
        simp [restingTrade, aggressorTrade, trade, Trade.counterpart, Trade.withHeader,
          PriceTime.tradeAgainst, Header.applyExecution]
      aggressorBalanced :=
        aggressorBalanced.applyExecution trade.execution.execPrice positive withinAggressor
      counterpartBalanced := by
        have filledBalanced :=
          restingBalanced.applyExecution trade.execution.execPrice positive withinResting
        simpa [Header.Balanced, restingTrade, Trade.counterpart, Trade.settle_header,
          Trade.withHeader] using filledBalanced }
    -- The aggressor's side: the aggressor moved by the round's quantity, the rest by nothing.
    have ownAccounted : ((book.afterRound side key now aggressor resting trade).sideOf side).Accounted
        (book.afterRound side key now aggressor resting trade).tape.toList history := by
      rw [own, tape]
      refine (conserves.sideOf side).fill (wellFormed.sideOf side) found positive withinAggressor
        _ _ ?_ ?_
      · simp [executedFor, Trade.RecordedFor, aggressorTradeBuys, aggressorTradeKey,
          aggressorTradeQty, restingTradeBuys, againstBuys]
      · intro other _ otherKey
        simp [executedFor, Trade.RecordedFor, aggressorTradeKey, Ne.symm otherKey,
          restingTradeBuys, againstBuys]
    -- The other side: the resting order moved by the round's quantity, the rest by nothing.
    have againstAccounted :
        ((book.afterRound side key now aggressor resting trade).oppositeOf side).Accounted
          (book.afterRound side key now aggressor resting trade).tape.toList history := by
      rw [against, tape]
      refine (conserves.oppositeOf side).fill (wellFormed.oppositeOf side) contra positive
        withinResting _ _ ?_ ?_
      · simp [executedFor, Trade.RecordedFor, aggressorTradeBuys, restingTradeBuys,
          restingTradeKey, restingTradeQty, againstBuys]
      · intro other _ otherKey
        simp [executedFor, Trade.RecordedFor, aggressorTradeBuys, restingTradeKey,
          Ne.symm otherKey, againstBuys]
    obtain ⟨pairs, paired, allMatched⟩ := conserves.paired
    refine .of_sides side ⟨pairs ++ [(aggressorTrade, restingTrade)], ?_, ?_⟩
      ownAccounted againstAccounted
    · rw [tape, paired]
      simp [pairTrades]
    · intro pair member
      rcases List.mem_append.mp member with old | new
      · exact allMatched pair old
      · rw [List.mem_singleton.mp new]
        exact matched

/-- Rounds of matching keep the tape and the book in agreement. -/
theorem rounds (conserves : book.TapeConserves history) (wellFormed : book.WellFormed)
    (rounds : Relation.ReflTransGen (MatchRound side key now) book after) :
    after.TapeConserves history := by
  induction rounds with
  | refl => exact conserves
  | tail rounds round inductionHypothesis =>
    exact inductionHypothesis.round (MatchRound.wellFormed_of_rounds rounds wellFormed) round

/-- Placing a fresh order starts its account at the tape's end and leaves every other account
as it was. -/
theorem place (conserves : book.TapeConserves history) (wellFormed : book.WellFormed)
    (now : Instant) {event : MarketEvent}
    (fresh : (book.sideOf event.header.side).contains event.key = false) :
    (book.placeOrder now event).TapeConserves
      (⟨OrderBook.stamp now event.header, history.length, book.tape.size⟩ :: history) := by
  set placement : Placement := ⟨OrderBook.stamp now event.header, history.length, book.tape.size⟩
  have others := (wellFormed.sideOf event.header.side).indexed.contains_eq_false_iff.mp fresh
  have tape : (book.placeOrder now event).tape = book.tape := by simp [OrderBook.placeOrder]
  have own : (book.placeOrder now event).sideOf event.header.side =
      (book.sideOf event.header.side).insert (event.withHeader (OrderBook.stamp now event.header)) := by
    simp [OrderBook.placeOrder]
  have against : (book.placeOrder now event).oppositeOf event.header.side =
      book.oppositeOf event.header.side := by
    simp [OrderBook.placeOrder]
  have ownBuying := wellFormed.buying_sideOf event.header.side
  have againstBuying := wellFormed.buying_oppositeOf event.header.side
  have ownAccounted : ((book.placeOrder now event).sideOf event.header.side).Accounted
      (book.placeOrder now event).tape.toList (placement :: history) := by
    rw [own, tape]
    intro order member
    rw [BookSide.buying_insert]
    rcases BookSide.mem_insert.mp member with rfl | old
    · -- The new order, exactly as placed, at the tape's end.
      exact Accounted.placed (latestPlacement_cons_of_places
        (by simp [Placement.places, placement, ownBuying, MarketEvent.key])) (by simp [placement])
        (by simp [placement]) (by simp [placement])
    · have distinct : event.header.key ≠ order.header.key := Ne.symm (others order old)
      exact (conserves.sideOf _ order old).cons_of_elsewhere
        (by simp [Placement.places, placement, MarketEvent.key, distinct])
  have againstAccounted : ((book.placeOrder now event).oppositeOf event.header.side).Accounted
      (book.placeOrder now event).tape.toList (placement :: history) := by
    rw [against, tape]
    intro order member
    exact (conserves.oppositeOf _ order member).cons_of_elsewhere
      (by simp [Placement.places, placement, againstBuying])
  exact .of_sides event.header.side (by rw [tape]; exact conserves.paired) ownAccounted
    againstAccounted

/-- Taking an order off leaves the tape and every other account as they were. -/
theorem erase (conserves : book.TapeConserves history) :
    (book.setSide side ((book.sideOf side).erase key)).TapeConserves history := by
  have tape : (book.setSide side ((book.sideOf side).erase key)).tape = book.tape := by simp
  have ownAccounted : ((book.setSide side ((book.sideOf side).erase key)).sideOf side).Accounted
      (book.setSide side ((book.sideOf side).erase key)).tape.toList history := by
    rw [OrderBook.sideOf_setSide, tape]
    intro order member
    rw [BookSide.buying_erase]
    exact conserves.sideOf side order ((BookSide.eraseKey_sublist key _).subset member)
  have againstAccounted :
      ((book.setSide side ((book.sideOf side).erase key)).oppositeOf side).Accounted
        (book.setSide side ((book.sideOf side).erase key)).tape.toList history := by
    rw [OrderBook.oppositeOf_setSide, tape]
    exact conserves.oppositeOf side
  exact .of_sides side (by rw [tape]; exact conserves.paired) ownAccounted againstAccounted

/-- Every operation that offers no outside trade keeps the tape and the book in agreement,
whether it ran to its end or was stopped between two rounds. -/
theorem perform (conserves : book.TapeConserves history) (wellFormed : book.WellFormed)
    {request : BookRequest} {finished : Bool} (admits : book.Admits request)
    (ordersOnly : ∀ event, request = .add event → event.isOrder = true)
    (performs : Performs now request book after finished) :
    after.TapeConserves (placeAfter now book request history) := by
  cases performs with
  | placed order fresh matched _ =>
    rw [placeAfter_order order fresh]
    exact (conserves.place wellFormed now fresh).rounds
      (wellFormed.placeOrder now (admits _ rfl) order fresh) matched
  | settled outside =>
    -- No outside trade is offered.
    rw [MarketEvent.ofEvent?_eq_none_of_isOrder (ordersOnly _ rfl)] at outside
    cases outside
  | taken found =>
    rw [placeAfter_eq_self (fun _ same => by cases same)]
    exact conserves.erase
  | unchanged placesNothing =>
    rw [placeAfter_eq_self placesNothing]
    exact conserves

end OrderBook.TapeConserves

/-- On every run from an empty book on which no trade comes from outside, neither from a call
nor from a subscriber, the tape and the book agree: the tape is the trades of match steps, two
by two, each pair for one positive quantity at one price between a buyer and a seller that name
each other; every resting order has executed since it was placed exactly what the tape recorded
for its side and key; and what the tape bought is what it sold. -/
theorem Reachable.tape_conserves {deliver : Delivery ρ σ} {symbol : String}
    {strategy : ExecutionStrategy} {admits : BookCall ρ → BookRun ρ σ → Prop}
    {run : BookRun ρ σ} {history : List Placement}
    (asks : deliver.Asks fun request => ∀ event, request = .add event → event.isOrder = true)
    (ordersOnly : ∀ call run, admits call run → call.OffersOrders)
    (reached : Reachable deliver symbol strategy admits run history) :
    run.book.TapeConserves history ∧
      executedBy true run.book.tape.toList = executedBy false run.book.tape.toList := by
  have allowed : ∀ call run, admits call run →
      call.Allowed fun request => ∀ event, request = .add event → event.isOrder = true := by
    intro call run admitted
    cases call with
    | add budget now event =>
      intro other same
      cases same
      exact ordersOnly _ run admitted
    | delete budget now event =>
      intro other same
      cases same
    | subscribe => trivial
    | unsubscribe => trivial
  have initial : (OrderBook.empty symbol strategy : OrderBook ρ).TapeConserves [] :=
    ⟨⟨[], rfl, fun _ member => (List.not_mem_nil member).elim⟩,
      fun _ member => (List.not_mem_nil member).elim,
      fun _ member => (List.not_mem_nil member).elim⟩
  obtain ⟨-, conserves⟩ := Reachable.invariant OrderBook.TapeConserves asks allowed initial
    (fun admits ordersOnly wellFormed conserves performs =>
      conserves.perform wellFormed admits ordersOnly performs)
    (fun _ _ _ _ _ conserves => ⟨conserves.paired, conserves.bids, conserves.offers⟩) reached
  obtain ⟨pairs, paired, matched⟩ := conserves.paired
  exact ⟨conserves, by rw [paired]; exact executedBy_pairTrades matched⟩

/-- The book after its first bid, with subscribers that ask for nothing, keeps its tape. -/
theorem first_bid_conserves_tape :
    quietDelivery.Asks (fun request => ∀ event, request = .add event → event.isOrder = true) ∧
      (∀ (call : BookCall Unit) (_ : BookRun Unit Unit),
        call.OffersOrders → call.OffersOrders) ∧
      Reachable quietDelivery "ACME" .priceTime (fun call _ => call.OffersOrders)
        (quietRun.after (firstBid.exec quietDelivery)) (firstBid.history quietDelivery quietRun []) ∧
      (quietRun.after (firstBid.exec quietDelivery)).book.TapeConserves
        (firstBid.history quietDelivery quietRun []) ∧
      executedBy true (quietRun.after (firstBid.exec quietDelivery)).book.tape.toList =
        executedBy false (quietRun.after (firstBid.exec quietDelivery)).book.tape.toList :=
  have asks : quietDelivery.Asks
      (fun request => ∀ event, request = .add event → event.isOrder = true) := by
    intro _ _ _ _ request member
    simp [quietDelivery, Reaction.none] at member
  have ordersOnly : ∀ (call : BookCall Unit) (_ : BookRun Unit Unit),
      call.OffersOrders → call.OffersOrders := fun _ _ offers => offers
  have reached := Reachable.call firstBid (Reachable.start ()) (show firstBid.OffersOrders from rfl)
  ⟨asks, ordersOnly, reached, Reachable.tape_conserves asks ordersOnly reached⟩

end Bourse
