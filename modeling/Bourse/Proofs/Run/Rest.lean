import Bourse.Proofs.Run.Reach
import Bourse.Proofs.Book.Thinning

/-!
# The book at rest

When a call returns, every operation it started has run to its end, and each placement was
matched until the strategy found no trade for the order. On a book reached through calls that
all returned, no resting bid and resting offer that both have quantity left have a price to
trade at (`OrderBook.Uncrossed`): two market orders never trade, a market order trades with any
limit, and two limits trade when the bid is at or above the offer.

The bound on what remains is not strict. The book's check admits an order whose executed
quantity already equals its quantity: it rests with nothing left, never enters matching, and is
passed over by every aggressor, so the book can stand crossed by its price
(`zero_remaining_bid_crosses_book`). What holds is that nothing rests with less than nothing
left, and that orders with quantity left are apart (`Reachable.at_rest`).

Matching an order that has quantity left ends only when the full scan finds no resting order
with quantity left and a price, so the new order is apart from everything against it; every
other change thins the book, which keeps orders apart that were apart.
-/

namespace Bourse

variable {ρ σ : Type}

namespace PriceTime

/-- Whether two orders have a price to trade at reads only their shapes. -/
theorem executionPrice_of_shapes {aggressor aggressor' resting resting' : MarketEvent}
    (sameAggressor : aggressor'.shape = aggressor.shape) (sameResting : resting'.shape = resting.shape)
    (crosses : Decimal → Decimal → Bool) :
    executionPrice aggressor'.header resting'.header crosses =
      executionPrice aggressor.header resting.header crosses := by
  have aggressorMarket := congrArg OrderShape.market sameAggressor
  have aggressorPrice := congrArg OrderShape.price sameAggressor
  have restingMarket := congrArg OrderShape.market sameResting
  have restingPrice := congrArg OrderShape.price sameResting
  simp only [MarketEvent.shape] at aggressorMarket aggressorPrice restingMarket restingPrice
  simp only [executionPrice, aggressorMarket, aggressorPrice, restingMarket, restingPrice]

/-- A bid and an offer have no price to trade at whichever of the two is the aggressor. -/
theorem executionPrice_offer_eq_none_iff (bid offer : Header) :
    executionPrice offer bid offerCrosses = none ↔ executionPrice bid offer bidCrosses = none := by
  unfold executionPrice bidCrosses offerCrosses
  cases bidMarket : bid.isMarket <;> cases offerMarket : offer.isMarket <;> simp

/-- In the words of the rule: a bid and an offer have no price to trade at exactly when both
take any price, or both are limits and the bid is below the offer. -/
theorem executionPrice_eq_none_iff (bid offer : Header) :
    executionPrice bid offer bidCrosses = none ↔
      (bid.isMarket = true ∧ offer.isMarket = true) ∨
        (bid.isMarket = false ∧ offer.isMarket = false ∧ bid.price.value < offer.price.value) := by
  unfold executionPrice bidCrosses
  cases bidMarket : bid.isMarket <;> cases offerMarket : offer.isMarket <;> simp

/-- An aggressor with quantity left for which the full scan finds no trade has no price with
any resting order that has quantity left. -/
theorem executionPrice_eq_none_of_fullScan {aggressor : Header}
    {crosses : Decimal → Decimal → Bool} {resting : List MarketEvent}
    (noTrade : fullScan aggressor crosses resting = none) (live : 0 < aggressor.remainingQty)
    {order : MarketEvent} (member : order ∈ resting) (orderLive : 0 < order.header.remainingQty) :
    executionPrice aggressor order.header crosses = none := by
  unfold fullScan at noTrade
  rw [if_neg (Int64.not_le.mpr live), Option.map_eq_none_iff, List.find?_eq_none] at noTrade
  have ineligible := noTrade order member
  simpa [Eligible, orderLive] using ineligible

end PriceTime

/-- The crossing test of an order is read off its shape. -/
theorem MarketEvent.crossing_of_shape {order other : MarketEvent} (same : order.shape = other.shape) :
    order.crossing = other.crossing := by
  have sameKind := congrArg OrderShape.kind same
  cases order <;> cases other <;> simp_all [MarketEvent.shape, MarketEvent.kind, MarketEvent.crossing]

namespace OrderBook

/-- No resting bid and resting offer that both have quantity left have a price to trade at. -/
def Uncrossed (book : OrderBook ρ) : Prop :=
  ∀ bid ∈ book.bids.orders, ∀ offer ∈ book.offers.orders, 0 < bid.header.remainingQty →
    0 < offer.header.remainingQty →
      PriceTime.executionPrice bid.header offer.header PriceTime.bidCrosses = none

/-- The same seen from the side of a side code: no order there with quantity left has a price,
as aggressor, with an order against it that has quantity left. -/
def ApartFrom (book : OrderBook ρ) (side : Side) : Prop :=
  ∀ order ∈ (book.sideOf side).orders, ∀ other ∈ (book.oppositeOf side).orders,
    0 < order.header.remainingQty → 0 < other.header.remainingQty →
      PriceTime.executionPrice order.header other.header order.crossing = none

namespace WellFormed

variable {book : OrderBook ρ}

/-- Only bids rest on the bid side, and they cross as bids. -/
theorem crossing_of_bid (wellFormed : book.WellFormed) {order : MarketEvent}
    (member : order ∈ book.bids.orders) : order.crossing = PriceTime.bidCrosses := by
  rcases wellFormed.bids.fits order member with ⟨isBid, -⟩ | ⟨-, selling, -⟩
  · cases order <;> simp_all [MarketEvent.shape, MarketEvent.kind, MarketEvent.crossing]
  · rw [wellFormed.bidsBuying] at selling
    cases selling

/-- Only offers rest on the offer side, and they cross as offers. -/
theorem crossing_of_offer (wellFormed : book.WellFormed) {order : MarketEvent}
    (member : order ∈ book.offers.orders) : order.crossing = PriceTime.offerCrosses := by
  rcases wellFormed.offers.fits order member with ⟨-, buying, -⟩ | ⟨isOffer, -⟩
  · rw [wellFormed.offersSelling] at buying
    cases buying
  · cases order <;> simp_all [MarketEvent.shape, MarketEvent.kind, MarketEvent.crossing]

/-- A well-formed book is uncrossed exactly when it is apart from either side. -/
theorem uncrossed_iff_apartFrom (wellFormed : book.WellFormed) (side : Side) :
    book.Uncrossed ↔ book.ApartFrom side := by
  unfold Uncrossed ApartFrom OrderBook.sideOf OrderBook.oppositeOf
  by_cases buys : side.isBuy = true
  · simp only [buys, if_true]
    constructor
    · intro uncrossed bid bidMember offer offerMember
      rw [wellFormed.crossing_of_bid bidMember]
      exact uncrossed bid bidMember offer offerMember
    · intro apart bid bidMember offer offerMember
      rw [← wellFormed.crossing_of_bid bidMember]
      exact apart bid bidMember offer offerMember
  · -- Seen from the offers, the roles swap.
    simp only [buys, Bool.false_eq_true, if_false]
    constructor
    · intro uncrossed offer offerMember bid bidMember offerLive bidLive
      rw [wellFormed.crossing_of_offer offerMember, PriceTime.executionPrice_offer_eq_none_iff]
      exact uncrossed bid bidMember offer offerMember bidLive offerLive
    · intro apart bid bidMember offer offerMember bidLive offerLive
      rw [← PriceTime.executionPrice_offer_eq_none_iff, ← wellFormed.crossing_of_offer offerMember]
      exact apart offer offerMember bid bidMember offerLive bidLive

end WellFormed

variable {book after : OrderBook ρ}

/-- What thins a book keeps its orders apart. -/
theorem Uncrossed.of_thins (uncrossed : book.Uncrossed) (thins : book.Thins after) :
    after.Uncrossed := by
  intro bid bidMember offer offerMember bidLive offerLive
  obtain ⟨bidSource, bidSourceMember, bidSame⟩ := thins.1.exists_of_mem bidMember
  obtain ⟨offerSource, offerSourceMember, offerSame⟩ := thins.2.exists_of_mem offerMember
  rw [← PriceTime.executionPrice_of_shapes (MarketEvent.shape_eq_of_standing bidSame)
    (MarketEvent.shape_eq_of_standing offerSame)]
  exact uncrossed bidSource bidSourceMember offerSource offerSourceMember
    (MarketEvent.live_of_standing bidSame bidLive) (MarketEvent.live_of_standing offerSame offerLive)

/-- A placement matched to its end leaves an uncrossed book uncrossed: the new order is apart
from everything against it, since the full scan found it no trade, and everything else was
apart before. -/
theorem Uncrossed.place (uncrossed : book.Uncrossed) (wellFormed : book.WellFormed)
    {now : Instant} {event : MarketEvent} (thinned : (book.placeOrder now event).Thins after) (afterWellFormed : after.WellFormed)
    (done : MatchDone event.header.side event.key after) : after.Uncrossed := by
  have apart := (wellFormed.uncrossed_iff_apartFrom event.header.side).mp uncrossed
  rw [afterWellFormed.uncrossed_iff_apartFrom event.header.side]
  intro order orderMember other otherMember orderLive otherLive
  -- The order against comes from the book as it was: the placement did not touch that side.
  obtain ⟨otherSource, otherSourceMember, otherSame⟩ :=
    (thinned.oppositeOf event.header.side).exists_of_mem otherMember
  have otherOld : otherSource ∈ (book.oppositeOf event.header.side).orders := by
    simpa [OrderBook.placeOrder] using otherSourceMember
  by_cases placed : order.key = event.key
  · -- The order just placed: matching ended with no trade for it.
    have found : (after.sideOf event.header.side).find? event.key = some order :=
      placed ▸ (afterWellFormed.sideOf event.header.side).find?_of_mem orderMember
    have noTrade := done order found orderLive
    rw [afterWellFormed.tradeFor_eq_fullScan found] at noTrade
    exact PriceTime.executionPrice_eq_none_of_fullScan noTrade orderLive otherMember otherLive
  · -- Any other order on its side was there before, and apart from everything against it.
    obtain ⟨source, sourceMember, same⟩ :=
      (thinned.sideOf event.header.side).exists_of_mem orderMember
    have sameShape := MarketEvent.shape_eq_of_standing same
    have sourceOld : source ∈ (book.sideOf event.header.side).orders := by
      have inserted : source ∈ ((book.sideOf event.header.side).insert
          (event.withHeader (OrderBook.stamp now event.header))).orders := by
        simpa [OrderBook.placeOrder] using sourceMember
      rcases BookSide.mem_insert.mp inserted with isNew | old
      · have sameKey := congrArg OrderShape.key sameShape
        simp only [MarketEvent.shape, isNew, MarketEvent.key_withHeader, OrderBook.key_stamp]
          at sameKey
        exact absurd sameKey.symm placed
      · exact old
    rw [← MarketEvent.crossing_of_shape sameShape,
      ← PriceTime.executionPrice_of_shapes sameShape (MarketEvent.shape_eq_of_standing otherSame)]
    exact apart source sourceOld otherSource otherOld (MarketEvent.live_of_standing same orderLive)
      (MarketEvent.live_of_standing otherSame otherLive)

/-- Every operation the book admits, run to its end, leaves an uncrossed book uncrossed. -/
theorem Uncrossed.perform (uncrossed : book.Uncrossed) (wellFormed : book.WellFormed)
    {now : Instant} {request : BookRequest} (admits : book.Admits request)
    (performs : Performs now request book after true) : after.Uncrossed := by
  have afterWellFormed := performs.wellFormed wellFormed admits
  rcases performs.thins wellFormed admits with
    ⟨event, rfl, -, -, thinned, settled⟩ | ⟨thinned, -⟩
  · exact uncrossed.place wellFormed thinned afterWellFormed (settled rfl)
  · exact uncrossed.of_thins thinned

/-- A book at rest: nothing rests with less than nothing left, and no resting bid and resting
offer that both have quantity left have a price to trade at. -/
structure AtRest (book : OrderBook ρ) : Prop where
  /-- What remains of a resting order is not negative. -/
  nonnegative : ∀ side ∈ [book.bids, book.offers], ∀ order ∈ side.orders,
    0 ≤ order.header.remainingQty
  /-- Resting orders with quantity left cannot trade with each other. -/
  uncrossed : book.Uncrossed

/-- A well-formed, uncrossed book is at rest. -/
theorem WellFormed.atRest (wellFormed : book.WellFormed) (uncrossed : book.Uncrossed) :
    book.AtRest := by
  refine ⟨?_, uncrossed⟩
  intro side member order resting
  have nonnegative : (0 : Int64).toInt ≤ order.header.remainingQty.toInt := by
    simp only [List.mem_cons, List.not_mem_nil, or_false] at member
    rcases member with bids | offers
    · simpa using (wellFormed.bids.balanced order (bids ▸ resting)).2
    · simpa using (wellFormed.offers.balanced order (offers ▸ resting)).2
  exact Int64.le_iff_toInt_le.mpr nonnegative

end OrderBook

/-- On every book reached from empty through calls that all returned, whatever the events and
whatever the subscribers ask for, the book is at rest: nothing rests with less than nothing
left, and no resting bid and resting offer that both have quantity left can trade. -/
theorem Reachable.at_rest {deliver : Delivery ρ σ} {symbol : String}
    {strategy : ExecutionStrategy} {admits : BookCall ρ → BookRun ρ σ → Prop}
    {run : BookRun ρ σ} {history : List Placement}
    (returns : ∀ call run, admits call run → call.Returns deliver run)
    (reached : Reachable deliver symbol strategy admits run history) : run.book.AtRest := by
  have asks : deliver.Asks fun _ => True := fun _ _ _ _ _ _ _ => trivial
  have allowed : ∀ call run, admits call run → call.Allowed fun _ => True := by
    intro call _ _
    cases call <;> trivial
  have initial : (OrderBook.empty symbol strategy : OrderBook ρ).Uncrossed :=
    fun _ member => (List.not_mem_nil member).elim
  obtain ⟨wellFormed, uncrossed⟩ := Reachable.invariant_of_returns (fun book _ => book.Uncrossed)
    asks allowed returns initial
    (fun admits _ wellFormed uncrossed performs => uncrossed.perform wellFormed admits performs)
    (fun _ _ _ _ _ uncrossed => uncrossed) reached
  exact wellFormed.atRest uncrossed

/-- The book after its first bid, a call that returns, is at rest. -/
theorem first_bid_at_rest :
    (∀ (call : BookCall Unit) (run : BookRun Unit Unit),
        call.Returns quietDelivery run → call.Returns quietDelivery run) ∧
      Reachable quietDelivery "ACME" .priceTime (fun call run => call.Returns quietDelivery run)
        (quietRun.after (firstBid.exec quietDelivery)) (firstBid.history quietDelivery quietRun []) ∧
      (quietRun.after (firstBid.exec quietDelivery)).book.AtRest :=
  have returns : ∀ (call : BookCall Unit) (run : BookRun Unit Unit),
      call.Returns quietDelivery run → call.Returns quietDelivery run :=
    fun _ _ returned => returned
  have reached := Reachable.call firstBid (Reachable.start ()) ⟨_, rfl⟩
  ⟨returns, reached, Reachable.at_rest returns reached⟩

/-- A bid for ten of which ten are executed: the check admits it, with nothing left. -/
def exhaustedBid : BookCall Unit :=
  .add queueLimit Instant.zero (.bid { Header.empty with
    side := Side.buy, orderQty := 10, cumQty := 10, price := Decimal.ofInt 100 })

/-- An offer for five below the exhausted bid's price. -/
def lowOffer : BookCall Unit :=
  .add queueLimit Instant.zero (.offer { Header.empty with
    side := Side.sell, orderQty := 5, remainingQty := 5, price := Decimal.ofInt 90 })

/-- The run after the exhausted bid and then the low offer. -/
def crossedRun : BookRun Unit Unit :=
  (quietRun.after (exhaustedBid.exec quietDelivery)).after (lowOffer.exec quietDelivery)

/-- Its history. -/
def crossedHistory : List Placement :=
  lowOffer.history quietDelivery (quietRun.after (exhaustedBid.exec quietDelivery))
    (exhaustedBid.history quietDelivery quietRun [])

/-- After two calls that both return, a bid with nothing left rests, and the best bid stands
above the best offer. -/
theorem zero_remaining_bid_crosses_book :
    Reachable quietDelivery "ACME" .priceTime (fun call run => call.Returns quietDelivery run)
        crossedRun crossedHistory ∧
      (∃ bid ∈ crossedRun.book.bids.orders, bid.header.remainingQty = 0) ∧
      crossedRun.book.bestOffer.value < crossedRun.book.bestBid.value :=
  ⟨Reachable.call lowOffer (Reachable.call exhaustedBid (Reachable.start ()) ⟨_, rfl⟩) ⟨_, rfl⟩,
    by decide, (Decimal.lt_eq_true_iff _ _).mp (by decide)⟩

end Bourse
