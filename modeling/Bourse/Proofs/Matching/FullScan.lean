import Bourse.Proofs.Book.Rank
import Bourse.Matching.PriceTime

/-!
# Price-time matching is the full scan

`PriceTime.firstTrade` walks the resting orders best first and stops at the first limit order
that does not cross, skipping orders with nothing left and market orders that cannot trade.
The rule it implements is simpler to say: the aggressor trades with the first resting order,
in priority order, that still has quantity and with which it has a price (`fullScan`). The two
agree on every list ordered like a side of the book, because past a limit order that does not
cross every order is a worse limit that does not cross either.

`tradeAgainst` spells out the trade from the rules of the strategy, independently of
`Trade.settle`: the smaller of the two remaining quantities, at the resting order's limit or,
against a resting market order, at the aggressor's limit, booked against the aggressor, a fill
when nothing of it remains and a partial fill otherwise.

Whatever the list, a limit aggressor never trades through its limit: a bid pays at most its
price and an offer receives at least its price.
-/

namespace Bourse.PriceTime

/-- A resting order the aggressor can trade with: it still has quantity and the two orders have
a price to trade at. -/
def Eligible (aggressor : Header) (crosses : Decimal → Decimal → Bool) (resting : MarketEvent) :
    Bool :=
  decide (0 < resting.header.remainingQty) &&
    (executionPrice aggressor resting.header crosses).isSome

/-- The trade of the aggressor against one resting order, from the rules of the strategy. -/
def tradeAgainst (aggressor resting : Header) : Trade :=
  let qty := min aggressor.remainingQty resting.remainingQty
  let price := if resting.isMarket then aggressor.price else resting.price
  let after := aggressor.applyExecution qty price
  let complete := after.remainingQty == 0
  ⟨complete, { after with action := if complete then Action.delete else Action.change },
    ⟨qty, price, resting.clientOrderId, resting.clientId⟩⟩

/-- The full-scan reference: no trade for an aggressor with nothing left, and otherwise the
trade against the first eligible resting order, if there is one. -/
def fullScan (aggressor : Header) (crosses : Decimal → Decimal → Bool)
    (resting : List MarketEvent) : Option Trade :=
  if aggressor.remainingQty ≤ 0 then none
  else (resting.find? (Eligible aggressor crosses)).map fun order => tradeAgainst aggressor order.header

/-- A price, when there is one, is the resting order's limit, or the aggressor's limit against
a resting market order. -/
theorem executionPrice_eq_some {aggressor resting : Header} {crosses : Decimal → Decimal → Bool}
    {price : Decimal} (priced : executionPrice aggressor resting crosses = some price) :
    price = if resting.isMarket then aggressor.price else resting.price := by
  unfold executionPrice at priced
  split at priced
  · cases priced
  · split at priced
    · cases priced
      simp_all
    · split at priced
      · cases priced
        simp_all
      · split at priced
        · cases priced
          simp_all
        · cases priced

/-- A limit aggressor trades only at a price that crosses its own limit: at the resting limit
when the two limits cross, and at its own limit against a resting market order. -/
theorem executionPrice_crosses {aggressor resting : Header} {crosses : Decimal → Decimal → Bool}
    (reflexive : ∀ price, crosses price price = true) {price : Decimal}
    (priced : executionPrice aggressor resting crosses = some price)
    (limit : aggressor.isMarket = false) : crosses aggressor.price price = true := by
  unfold executionPrice at priced
  simp only [limit, Bool.false_and, Bool.false_eq_true, if_false] at priced
  split at priced
  · cases priced
    exact reflexive _
  · split at priced
    · cases priced
      assumption
    · cases priced

/-- The strategy's settlement of the trade it found is `tradeAgainst`. -/
theorem settle_eq_tradeAgainst {aggressor resting : Header} {crosses : Decimal → Decimal → Bool}
    {price : Decimal} (priced : executionPrice aggressor resting crosses = some price) :
    Trade.settle
        (aggressor.applyExecution
          (if resting.remainingQty < aggressor.remainingQty then resting.remainingQty
            else aggressor.remainingQty) price)
        ⟨if resting.remainingQty < aggressor.remainingQty then resting.remainingQty
            else aggressor.remainingQty, price, resting.clientOrderId, resting.clientId⟩ =
      tradeAgainst aggressor resting := by
  have smaller : (if resting.remainingQty < aggressor.remainingQty then resting.remainingQty
      else aggressor.remainingQty) = min aggressor.remainingQty resting.remainingQty := by
    show _ = if aggressor.remainingQty ≤ resting.remainingQty then _ else _
    by_cases below : resting.remainingQty < aggressor.remainingQty
    · rw [if_pos below, if_neg (Int64.not_le.mpr below)]
    · rw [if_neg below, if_pos (Int64.not_lt.mp below)]
  rw [smaller, executionPrice_eq_some priced]
  unfold Trade.settle tradeAgainst
  by_cases complete : (aggressor.applyExecution (min aggressor.remainingQty resting.remainingQty)
      (if resting.isMarket then aggressor.price else resting.price)).remainingQty = 0
  · simp [complete]
  · simp [complete]

/-- A crossing test read against the side it meets (the bids when `buying`): once a limit on
that side fails to cross, every limit of no better rank fails too. -/
def CrossesMonotone (buying : Bool) (crosses : Decimal → Decimal → Bool) : Prop :=
  ∀ (aggressorPrice first later : Decimal),
    priority buying false later ≤ priority buying false first →
    crosses aggressorPrice first = false → crosses aggressorPrice later = false

/-- A bid meets offers, which rank by lower price. -/
theorem bidCrosses_monotone : CrossesMonotone false bidCrosses := by
  intro aggressorPrice first later ranked missed
  simp only [priority, Bool.false_eq_true, if_false, WithTop.coe_le_coe, neg_le_neg_iff] at ranked
  simp only [bidCrosses, Decimal.le_eq_false_iff] at missed ⊢
  exact lt_of_lt_of_le missed ranked

/-- An offer meets bids, which rank by higher price. -/
theorem offerCrosses_monotone : CrossesMonotone true offerCrosses := by
  intro aggressorPrice first later ranked missed
  simp only [priority, Bool.false_eq_true, if_false, if_true, WithTop.coe_le_coe] at ranked
  simp only [offerCrosses, Decimal.le_eq_false_iff] at missed ⊢
  exact lt_of_le_of_lt ranked missed

/-- Past a resting limit order the aggressor cannot trade with, nothing on a ranked side is
eligible: every later order is a limit of no better rank. -/
theorem not_eligible_after_missed_limit {aggressor : Header} {crosses : Decimal → Decimal → Bool}
    {buying : Bool} (monotone : CrossesMonotone buying crosses) {first : MarketEvent}
    (firstLimit : first.header.isMarket = false)
    (missed : executionPrice aggressor first.header crosses = none)
    {later : MarketEvent}
    (ranked : priority buying later.header.isMarket later.header.price ≤
      priority buying false first.header.price) :
    Eligible aggressor crosses later = false := by
  -- The missed limit leaves the aggressor a limit too, whose price does not cross it.
  have aggressorLimit : aggressor.isMarket = false := by
    unfold executionPrice at missed
    cases aggressorMarket : aggressor.isMarket <;> simp_all
  have noCross : crosses aggressor.price first.header.price = false := by
    unfold executionPrice at missed
    simp_all
  have laterLimit : later.header.isMarket = false := by
    cases laterMarket : later.header.isMarket
    · rfl
    · rw [laterMarket] at ranked
      exact absurd (lt_of_le_of_lt ranked (priority_lt_top _ _)) (lt_irrefl _)
  rw [laterLimit] at ranked
  have laterNoCross := monotone aggressor.price first.header.price later.header.price ranked noCross
  simp [Eligible, executionPrice, aggressorLimit, laterLimit, laterNoCross]

/-- On a ranked side the early-exiting scan finds the first eligible order. -/
theorem firstTrade_eq_find (aggressor : Header) (crosses : Decimal → Decimal → Bool)
    (opposite : BookSide) (monotone : CrossesMonotone opposite.buying crosses)
    (ranked : opposite.Ranked) :
    firstTrade aggressor crosses opposite.orders =
      (opposite.orders.find? (Eligible aggressor crosses)).map
        fun order => tradeAgainst aggressor order.header := by
  obtain ⟨buying, orders, index⟩ := opposite
  unfold BookSide.Ranked at ranked
  simp only at ranked monotone ⊢
  induction orders with
  | nil => rfl
  | cons order rest inductionHypothesis =>
    obtain ⟨laterRanked, restRanked⟩ := List.pairwise_cons.mp ranked
    have restEquation := inductionHypothesis restRanked
    unfold firstTrade
    simp only [List.find?_cons]
    by_cases exhausted : order.header.remainingQty ≤ 0
    · have notEligible : Eligible aggressor crosses order = false := by
        simp [Eligible, Int64.not_lt.mpr exhausted]
      simp only [exhausted, if_true, notEligible, restEquation]
    · simp only [exhausted, if_false]
      have live : (0 < order.header.remainingQty) := Int64.not_le.mp exhausted
      cases priced : executionPrice aggressor order.header crosses with
      | none =>
        have notEligible : Eligible aggressor crosses order = false := by
          simp [Eligible, priced]
        cases orderMarket : order.header.isMarket
        · -- A limit that does not cross ends the scan, and rightly: nothing later is eligible.
          have noneLater : rest.find? (Eligible aggressor crosses) = none := by
            rw [List.find?_eq_none]
            intro later member
            have laterRank := laterRanked later member
            simp only [BookSide.rank, orderMarket] at laterRank
            simp [not_eligible_after_missed_limit monotone orderMarket priced laterRank]
          simp [notEligible, noneLater]
        · simp [notEligible, restEquation]
      | some price =>
        have eligible : Eligible aggressor crosses order = true := by
          simp [Eligible, live, priced]
        simp only [eligible, Option.map_some]
        exact congrArg some (settle_eq_tradeAgainst priced)

/-- Settling keeps the execution as given. -/
@[simp] theorem settle_execution (header : Header) (execution : Execution) :
    (Trade.settle header execution).execution = execution := by
  unfold Trade.settle
  split <;> rfl

/-- Whatever the list, the strategy's trade is priced with one of the resting orders. -/
theorem firstTrade_priced {aggressor : Header} {crosses : Decimal → Decimal → Bool}
    {resting : List MarketEvent} {trade : Trade}
    (found : firstTrade aggressor crosses resting = some trade) :
    ∃ order ∈ resting,
      executionPrice aggressor order.header crosses = some trade.execution.execPrice := by
  induction resting with
  | nil => cases found
  | cons order rest inductionHypothesis =>
    unfold firstTrade at found
    dsimp only at found
    split at found
    · obtain ⟨later, member, priced⟩ := inductionHypothesis found
      exact ⟨later, List.mem_cons_of_mem _ member, priced⟩
    · split at found
      · split at found
        · obtain ⟨later, member, priced⟩ := inductionHypothesis found
          exact ⟨later, List.mem_cons_of_mem _ member, priced⟩
        · cases found
      · rename_i price priced
        cases found
        exact ⟨order, List.mem_cons_self, by rw [settle_execution]; exact priced⟩

/-- **Price-time priority is the full scan, and no limit is traded through.** Against offers
standing best first, the strategy's trade for a bid is exactly the full-scan reference, and
likewise for an offer against bids standing best first. Against any list at all, a limit bid
never pays more than its price and a limit offer never receives less than its price. -/
theorem priceTime_eq_fullScan (aggressor : Header) (resting : List MarketEvent) :
    (({ BookSide.empty false with orders := resting }).Ranked →
      ExecutionStrategy.priceTime.checkBid aggressor resting =
        fullScan aggressor bidCrosses resting) ∧
    (({ BookSide.empty true with orders := resting }).Ranked →
      ExecutionStrategy.priceTime.checkOffer aggressor resting =
        fullScan aggressor offerCrosses resting) ∧
    (∀ trade, ExecutionStrategy.priceTime.checkBid aggressor resting = some trade →
      aggressor.isMarket = false → trade.execution.execPrice.value ≤ aggressor.price.value) ∧
    (∀ trade, ExecutionStrategy.priceTime.checkOffer aggressor resting = some trade →
      aggressor.isMarket = false → aggressor.price.value ≤ trade.execution.execPrice.value) := by
  have bidReflexive : ∀ price, bidCrosses price price = true := by
    intro price
    simp [bidCrosses]
  have offerReflexive : ∀ price, offerCrosses price price = true := by
    intro price
    simp [offerCrosses]
  refine ⟨fun ranked => ?_, fun ranked => ?_, fun trade found limit => ?_,
    fun trade found limit => ?_⟩
  · simp only [ExecutionStrategy.checkBid, check, fullScan]
    split
    · rfl
    · exact firstTrade_eq_find aggressor bidCrosses { BookSide.empty false with orders := resting } bidCrosses_monotone ranked
  · simp only [ExecutionStrategy.checkOffer, check, fullScan]
    split
    · rfl
    · exact firstTrade_eq_find aggressor offerCrosses { BookSide.empty true with orders := resting } offerCrosses_monotone ranked
  · simp only [ExecutionStrategy.checkBid, check] at found
    split at found
    · cases found
    · obtain ⟨order, -, priced⟩ := firstTrade_priced found
      simpa [bidCrosses] using executionPrice_crosses bidReflexive priced limit
  · simp only [ExecutionStrategy.checkOffer, check] at found
    split at found
    · cases found
    · obtain ⟨order, -, priced⟩ := firstTrade_priced found
      simpa [offerCrosses] using executionPrice_crosses offerReflexive priced limit

/-- A limit bid for 5 at 101 against offers of 3 at 100 and 4 at 102, standing best first: the
strategy and the full scan agree. -/
theorem bid_against_two_offers_matches_fullScan :
    ({ BookSide.empty false with orders :=
        [.offer { Header.empty with side := Side.sell, price := 100, orderQty := 3, remainingQty := 3 },
         .offer { Header.empty with side := Side.sell, price := 102, orderQty := 4, remainingQty := 4 }] }
      ).Ranked ∧
      ExecutionStrategy.priceTime.checkBid
          { Header.empty with side := Side.buy, price := 101, orderQty := 5, remainingQty := 5 }
          [.offer { Header.empty with side := Side.sell, price := 100, orderQty := 3, remainingQty := 3 },
           .offer { Header.empty with side := Side.sell, price := 102, orderQty := 4, remainingQty := 4 }] =
        fullScan { Header.empty with side := Side.buy, price := 101, orderQty := 5, remainingQty := 5 }
          bidCrosses
          [.offer { Header.empty with side := Side.sell, price := 100, orderQty := 3, remainingQty := 3 },
           .offer { Header.empty with side := Side.sell, price := 102, orderQty := 4, remainingQty := 4 }] := by
  have ranked : ({ BookSide.empty false with orders :=
      [.offer { Header.empty with side := Side.sell, price := 100, orderQty := 3, remainingQty := 3 },
       .offer { Header.empty with side := Side.sell, price := 102, orderQty := 4, remainingQty := 4 }] }
      ).Ranked := by
    simp [BookSide.Ranked, BookSide.rank, priority, Header.isMarket, Header.empty, OrderType.limit,
      OrderType.market, MarketEvent.header]
    exact WithTop.coe_le_coe.mpr (show (-102 : ℚ) ≤ -100 by decide)
  exact ⟨ranked, (priceTime_eq_fullScan _ _).1 ranked⟩

end Bourse.PriceTime
