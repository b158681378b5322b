import Bourse.Proofs.Book.WellFormed

/-!
# Matching in a well-formed book

A book is well formed (`OrderBook.WellFormed`) when its bids side buys, its offers side sells,
and both sides are well formed. Every change an operation makes keeps it so (`Performs.wellFormed`):
placing an order the book admits, a round of matching, an outside trade within what remains,
and taking an order off.

In a well-formed book the strategy's trade for a resting order is the full-scan reference
(`WellFormed.tradeFor_eq_fullScan`): the other side stands best first, which is all the
early-exiting scan relies on. A round of matching therefore trades the aggressor against the
first eligible resting order, by the smaller of their remaining quantities
(`WellFormed.matchRound_trade`), and so takes one of the two off the book
(`MatchRound.progress`): the rounds a placement needs are bounded by the size of the other side.
-/

namespace Bourse

theorem Int64.toInt_min (first second : Int64) :
    (min first second).toInt = min first.toInt second.toInt := by
  show (if first ≤ second then first else second).toInt = _
  by_cases below : first ≤ second
  · rw [if_pos below, min_eq_left (Int64.le_iff_toInt_le.mp below)]
  · rw [if_neg below, min_eq_right (Int64.lt_iff_toInt_lt.mp (Int64.not_le.mp below)).le]

/-- Stamping an order for placement keeps its shape. -/
@[simp] theorem MarketEvent.shape_withHeader_stamp (order : MarketEvent) (now : Instant) :
    (order.withHeader (OrderBook.stamp now order.header)).shape = order.shape := by
  cases order <;> rfl

/-- The crossing test an aggressor trades by: a bid's against offers, an offer's against
bids. -/
def MarketEvent.crossing : MarketEvent → Decimal → Decimal → Bool
  | .bid _ => PriceTime.bidCrosses
  | _ => PriceTime.offerCrosses

namespace OrderBook

variable {ρ : Type}

/-- The representation invariant of the book. -/
structure WellFormed (book : OrderBook ρ) : Prop where
  /-- The bids side buys. -/
  bidsBuying : book.bids.buying = true
  /-- The offers side does not. -/
  offersSelling : book.offers.buying = false
  bids : book.bids.WellFormed
  offers : book.offers.WellFormed

namespace WellFormed

variable {book : OrderBook ρ}

theorem sideOf (wellFormed : book.WellFormed) (side : Side) : (book.sideOf side).WellFormed := by
  unfold OrderBook.sideOf
  split
  · exact wellFormed.bids
  · exact wellFormed.offers

theorem oppositeOf (wellFormed : book.WellFormed) (side : Side) :
    (book.oppositeOf side).WellFormed := by
  unfold OrderBook.oppositeOf
  split
  · exact wellFormed.offers
  · exact wellFormed.bids

theorem buying_sideOf (wellFormed : book.WellFormed) (side : Side) :
    (book.sideOf side).buying = side.isBuy := by
  unfold OrderBook.sideOf
  split
  · rename_i buys
    rw [wellFormed.bidsBuying, buys]
  · rename_i sells
    rw [wellFormed.offersSelling]
    simpa using sells

theorem buying_oppositeOf (wellFormed : book.WellFormed) (side : Side) :
    (book.oppositeOf side).buying = !side.isBuy := by
  unfold OrderBook.oppositeOf
  split
  · rename_i buys
    rw [wellFormed.offersSelling, buys]
    rfl
  · rename_i sells
    rw [wellFormed.bidsBuying]
    simp [sells]

theorem setSide (wellFormed : book.WellFormed) {side : Side} {orders : BookSide}
    (ordersWellFormed : orders.WellFormed) (buying : orders.buying = side.isBuy) :
    (book.setSide side orders).WellFormed := by
  unfold OrderBook.setSide
  split
  · rename_i buys
    exact ⟨by rw [buying, buys], wellFormed.offersSelling, ordersWellFormed, wellFormed.offers⟩
  · rename_i sells
    exact ⟨wellFormed.bidsBuying, by simpa [buying] using sells, wellFormed.bids,
      ordersWellFormed⟩

theorem setOpposite (wellFormed : book.WellFormed) {side : Side} {orders : BookSide}
    (ordersWellFormed : orders.WellFormed) (buying : orders.buying = !side.isBuy) :
    (book.setOpposite side orders).WellFormed := by
  unfold OrderBook.setOpposite
  split
  · rename_i buys
    exact ⟨wellFormed.bidsBuying, by rw [buying, buys]; rfl, wellFormed.bids, ordersWellFormed⟩
  · rename_i sells
    exact ⟨by simpa [buying] using sells, wellFormed.offersSelling, ordersWellFormed,
      wellFormed.offers⟩

theorem pick (wellFormed : book.WellFormed) (side : Side) (opposite : Bool) :
    (book.pick side opposite).WellFormed := by
  cases opposite
  · exact wellFormed.sideOf side
  · exact wellFormed.oppositeOf side

/-- Putting back a well-formed side of the right direction keeps the book well formed. -/
theorem store (wellFormed : book.WellFormed) {side : Side} {opposite : Bool} {orders : BookSide}
    (ordersWellFormed : orders.WellFormed) (buying : orders.buying = (book.pick side opposite).buying) :
    (book.store side opposite orders).WellFormed := by
  cases opposite
  · exact wellFormed.setSide ordersWellFormed (buying.trans (wellFormed.buying_sideOf side))
  · exact wellFormed.setOpposite ordersWellFormed (buying.trans (wellFormed.buying_oppositeOf side))

theorem record (wellFormed : book.WellFormed) (trade : Trade) : (book.record trade).WellFormed :=
  ⟨wellFormed.bidsBuying, wellFormed.offersSelling, wellFormed.bids, wellFormed.offers⟩

/-- Filling a resting order by a positive quantity within what remains keeps the book well
formed. -/
theorem fill (wellFormed : book.WellFormed) {side : Side} (opposite : Bool) {key : OrderKey}
    {order : MarketEvent} (found : (book.pick side opposite).find? key = some order)
    {qty : Int64} {price : Decimal} (positive : 0 < qty) (within : qty ≤ order.header.remainingQty) :
    (book.fill side opposite key (order.header.applyExecution qty price)).WellFormed :=
  wellFormed.store ((wellFormed.pick side opposite).fill found positive within) (by simp)

/-- An order the book admits rests on the side its kind names. -/
theorem fits_sideOf (wellFormed : book.WellFormed) {event : MarketEvent} (sided : event.Sided) :
    (book.sideOf event.header.side).Fits event.shape := by
  rcases sided with ⟨isBid, buys⟩ | ⟨isOffer, sells⟩
  · exact .inl ⟨isBid, by rw [wellFormed.buying_sideOf, buys]; rfl, buys⟩
  · exact .inr ⟨isOffer, by rw [wellFormed.buying_sideOf, Side.isBuy_eq_false_of_isSell sells],
      sells⟩

/-- Placing an order the book admits, under a key not resting on its side, keeps the book well
formed. -/
theorem placeOrder (wellFormed : book.WellFormed) {event : MarketEvent} (now : Instant)
    (admitted : book.check event = .ok ()) (order : Trade.ofEvent? event = none)
    (fresh : (book.sideOf event.header.side).contains event.key = false) :
    (book.placeOrder now event).WellFormed := by
  obtain ⟨sided, balanced⟩ := MarketEvent.admitted_of_check admitted order
  have fits := wellFormed.fits_sideOf sided
  rw [← MarketEvent.shape_withHeader_stamp event now] at fits
  refine wellFormed.setSide (((wellFormed.sideOf _).insert ?_ fits ?_)) (by
    simpa using wellFormed.buying_sideOf event.header.side)
  · simpa [MarketEvent.key] using fresh
  · simpa using balanced

/-- In a well-formed book the strategy's trade for a resting order is the full-scan
reference: the other side stands best first, which is all the early-exiting scan needs. -/
theorem tradeFor_eq_fullScan (wellFormed : book.WellFormed) {side : Side} {key : OrderKey}
    {aggressor : MarketEvent} (found : (book.sideOf side).find? key = some aggressor) :
    book.tradeFor aggressor (book.oppositeOf side).orders =
      PriceTime.fullScan aggressor.header aggressor.crossing (book.oppositeOf side).orders := by
  have fits := (wellFormed.sideOf side).fits aggressor ((wellFormed.sideOf side).mem_of_find? found)
  have ranked := (wellFormed.oppositeOf side).ranked
  rcases fits with ⟨isBid, buying, -⟩ | ⟨isOffer, selling, -⟩
  · -- A bid meets the offers, which rank by lower price.
    have oppositeSells : (book.oppositeOf side).buying = false := by
      rw [wellFormed.buying_oppositeOf, ← wellFormed.buying_sideOf side, buying]
      rfl
    cases aggressor with
    | bid header =>
      have scan := PriceTime.firstTrade_eq_find (MarketEvent.bid header).header PriceTime.bidCrosses (book.oppositeOf side)
        (oppositeSells ▸ PriceTime.bidCrosses_monotone) ranked
      simp [tradeFor, ExecutionStrategy.checkBid, PriceTime.check,
        PriceTime.fullScan, MarketEvent.crossing, scan]
    | _ => simp [MarketEvent.shape, MarketEvent.kind] at isBid
  · -- An offer meets the bids, which rank by higher price.
    have oppositeBuys : (book.oppositeOf side).buying = true := by
      rw [wellFormed.buying_oppositeOf, ← wellFormed.buying_sideOf side, selling]
      rfl
    cases aggressor with
    | offer header =>
      have scan := PriceTime.firstTrade_eq_find (MarketEvent.offer header).header
        PriceTime.offerCrosses (book.oppositeOf side)
        (oppositeBuys ▸ PriceTime.offerCrosses_monotone) ranked
      simp [tradeFor, ExecutionStrategy.checkOffer, PriceTime.check,
        PriceTime.fullScan, MarketEvent.crossing, scan]
    | _ => simp [MarketEvent.shape, MarketEvent.kind] at isOffer

/-- In a well-formed book the strategy's trade for a resting order is against the first
eligible order on the other side, and it names that order: the order rests under the trade's
contra key. -/
theorem tradeFor_eq_some (wellFormed : book.WellFormed) {side : Side} {key : OrderKey}
    {aggressor : MarketEvent} {trade : Trade}
    (found : (book.sideOf side).find? key = some aggressor)
    (chosen : book.tradeFor aggressor (book.oppositeOf side).orders = some trade) :
    ∃ first, (book.oppositeOf side).find? trade.contraKey = some first ∧
      PriceTime.Eligible aggressor.header aggressor.crossing first = true ∧
      trade = PriceTime.tradeAgainst aggressor.header first.header := by
  rw [wellFormed.tradeFor_eq_fullScan found] at chosen
  unfold PriceTime.fullScan at chosen
  split at chosen
  · cases chosen
  obtain ⟨first, isFirst, traded⟩ := Option.map_eq_some_iff.mp chosen
  have contraFirst : trade.contraKey = first.key := by
    rw [← traded]
    rfl
  rw [contraFirst]
  exact ⟨first, (wellFormed.oppositeOf side).find?_of_mem (List.mem_of_find?_eq_some isFirst),
    List.find?_some isFirst, traded.symm⟩

/-- A round in a well-formed book trades the aggressor against the first eligible resting
order, and the order the trade names is that one. -/
theorem matchRound_trade (wellFormed : book.WellFormed) {side : Side} {key : OrderKey}
    {aggressor resting : MarketEvent} {trade : Trade}
    (found : (book.sideOf side).find? key = some aggressor)
    (chosen : book.tradeFor aggressor (book.oppositeOf side).orders = some trade)
    (contra : (book.oppositeOf side).find? trade.contraKey = some resting) :
    resting ∈ (book.oppositeOf side).orders ∧
      PriceTime.Eligible aggressor.header aggressor.crossing resting = true ∧
      trade = PriceTime.tradeAgainst aggressor.header resting.header := by
  obtain ⟨first, rests, eligible, rfl⟩ := wellFormed.tradeFor_eq_some found chosen
  obtain rfl := Option.some.inj (rests.symm.trans contra)
  exact ⟨(wellFormed.oppositeOf side).mem_of_find? rests, eligible, rfl⟩

end WellFormed

end OrderBook

namespace PriceTime

/-- The quantity of a trade against an order with quantity left is positive and within what
both orders have left. -/
theorem tradeAgainst_within {aggressor resting : Header} (live : 0 < aggressor.remainingQty)
    (restingLive : 0 < resting.remainingQty) :
    0 < (tradeAgainst aggressor resting).execution.execQty ∧
      (tradeAgainst aggressor resting).execution.execQty ≤ aggressor.remainingQty ∧
      (tradeAgainst aggressor resting).execution.execQty ≤ resting.remainingQty := by
  have smaller := Int64.toInt_min aggressor.remainingQty resting.remainingQty
  have aggressorPositive : 0 < aggressor.remainingQty.toInt := by
    simpa using Int64.lt_iff_toInt_lt.mp live
  have restingPositive : 0 < resting.remainingQty.toInt := by
    simpa using Int64.lt_iff_toInt_lt.mp restingLive
  refine ⟨?_, ?_, ?_⟩ <;>
    simp only [tradeAgainst, Int64.lt_iff_toInt_lt, Int64.le_iff_toInt_le, smaller,
      Int64.toInt_zero] <;> omega

theorem live_of_eligible {aggressor : Header} {crosses : Decimal → Decimal → Bool}
    {resting : MarketEvent} (eligible : Eligible aggressor crosses resting = true) :
    0 < resting.header.remainingQty := by
  simp only [Eligible, Bool.and_eq_true, decide_eq_true_eq] at eligible
  exact eligible.1

end PriceTime

variable {ρ : Type} {side : Side} {key : OrderKey} {now : Instant}

/-- A round of matching keeps the book well formed: both fills are by a positive quantity
within what the two orders have left. -/
theorem MatchRound.wellFormed {book after : OrderBook ρ}
    (round : MatchRound side key now book after) (wellFormed : book.WellFormed) :
    after.WellFormed := by
  cases round with
  | traded found live chosen contra =>
    obtain ⟨-, eligible, rfl⟩ := wellFormed.matchRound_trade found chosen contra
    obtain ⟨positive, withinAggressor, withinResting⟩ :=
      PriceTime.tradeAgainst_within live (PriceTime.live_of_eligible eligible)
    -- The aggressor is filled first, then the resting order on the side the first fill left alone.
    refine ((OrderBook.WellFormed.fill ?_ true ?_ positive withinResting).record
      _).record _
    · exact wellFormed.fill false found positive withinAggressor
    · simpa [OrderBook.pick] using contra

/-- Each round takes an order off the book: the aggressor, when the trade takes all it has
left, and otherwise the resting order it met, which shortens the other side by one. -/
theorem MatchRound.progress {book after : OrderBook ρ}
    (round : MatchRound side key now book after) (wellFormed : book.WellFormed) :
    (after.sideOf side).find? key = none ∨
      (after.oppositeOf side).size + 1 = (book.oppositeOf side).size := by
  cases round with
  | traded found live chosen contra =>
    rename_i aggressor resting trade
    obtain ⟨member, eligible, rfl⟩ := wellFormed.matchRound_trade found chosen contra
    have restingLive := PriceTime.live_of_eligible eligible
    obtain ⟨positive, withinAggressor, withinResting⟩ :=
      PriceTime.tradeAgainst_within live restingLive
    have aggressorKey : aggressor.header.key = key := (wellFormed.sideOf side).key_of_find? found
    simp only [OrderBook.afterRound, OrderBook.sideOf_record, OrderBook.oppositeOf_record,
      OrderBook.sideOf_fill_opposite, OrderBook.oppositeOf_fill_opposite,
      OrderBook.oppositeOf_fill_own, OrderBook.sideOf_fill_own]
    -- The trade takes the smaller of the two quantities left, and so exhausts that order.
    by_cases smaller : aggressor.header.remainingQty ≤ resting.header.remainingQty
    · have takesAll : (PriceTime.tradeAgainst aggressor.header resting.header).execution.execQty =
          aggressor.header.remainingQty := if_pos smaller
      have exhausted := ((wellFormed.sideOf side).balanced aggressor
        ((wellFormed.sideOf side).mem_of_find? found)).remainingQty_applyExecution_eq_zero
        (PriceTime.tradeAgainst aggressor.header resting.header).execution.execPrice
        positive withinAggressor
      exact .inl ((wellFormed.sideOf side).fill_exhausted found
        (aggressor.header.applyExecution _ _) aggressorKey (exhausted.mpr takesAll)).1
    · have takesAll : (PriceTime.tradeAgainst aggressor.header resting.header).execution.execQty =
          resting.header.remainingQty := if_neg smaller
      have exhausted := ((wellFormed.oppositeOf side).balanced resting
        member).remainingQty_applyExecution_eq_zero
        (PriceTime.tradeAgainst aggressor.header resting.header).execution.execPrice
        positive withinResting
      exact .inr ((wellFormed.oppositeOf side).fill_exhausted contra
        (resting.header.applyExecution _ _) rfl (exhausted.mpr takesAll)).2

/-- Rounds of matching keep the book well formed. -/
theorem MatchRound.wellFormed_of_rounds {book after : OrderBook ρ}
    (rounds : Relation.ReflTransGen (MatchRound side key now) book after)
    (wellFormed : book.WellFormed) : after.WellFormed := by
  induction rounds with
  | refl => exact wellFormed
  | tail _ round inductionHypothesis => exact round.wellFormed inductionHypothesis

/-- A request the book would take: an add passes the book's check. Deletes are always taken. -/
def OrderBook.Admits (book : OrderBook ρ) (request : BookRequest) : Prop :=
  ∀ event, request = .add event → book.check event = .ok ()

/-- Every operation the book admits keeps it well formed. -/
theorem Performs.wellFormed {request : BookRequest} {book after : OrderBook ρ} {finished : Bool}
    (performs : Performs now request book after finished) (wellFormed : book.WellFormed)
    (admits : book.Admits request) : after.WellFormed := by
  cases performs with
  | placed order fresh matched settled =>
    exact MatchRound.wellFormed_of_rounds matched
      (wellFormed.placeOrder now (admits _ rfl) order fresh)
  | settled outside found positive within =>
    exact (wellFormed.fill false found positive within).record _
  | taken found =>
    exact wellFormed.setSide ((wellFormed.sideOf _).erase _) (by simp [wellFormed.buying_sideOf])
  | unchanged placesNothing => exact wellFormed

end Bourse
