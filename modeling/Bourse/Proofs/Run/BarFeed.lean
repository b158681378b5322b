import Bourse.Proofs.Book.Bars
import Bourse.Proofs.Run.Handing
import Bourse.Proofs.Replay.Feed
import Bourse.Proofs.Portfolio.Mirror

/-!
# What the book feeds its bars

A bar subscriber takes from each event the book publishes the trade it reports when that trade
is on the buy side (`BarAggregator.buyPrint?`), and nothing else. What one operation of the
book feeds it is read off the request (`FeedsBars`, proved in `Publishes.feedsBars`):

* a new order feeds one trade for each round of its matching, since a round publishes the
  aggressor's trade and the resting order's, one on each side and of the same quantity; in all
  it feeds what it matched, its quantity when placed less what it has left (`MatchShows.feeds`);
* an outside trade feeds the quantity the book took off the order it names when that order is
  a bid, and nothing for an offer;
* a delete feeds nothing when it finds its order; one that finds nothing publishes the request
  itself, and so feeds the trade the request names when that is a buy-side trade.

So the bars count every round of matching once, with its quantity, and besides the buy-side
trades applied from outside and those named by deletes of orders that do not rest.
-/

namespace Bourse

variable {ρ : Type}

open BarAggregator

/-- The trades the bar subscriber takes from the events shown, in order, at `moment`. -/
def buyPrints (shows : List (MarketEvent × OrderBook ρ)) (moment : Instant) : List TradePrint :=
  shows.filterMap fun shown => buyPrint? shown.1 moment

theorem buyPrints_append (first second : List (MarketEvent × OrderBook ρ)) (moment : Instant) :
    buyPrints (first ++ second) moment = buyPrints first moment ++ buyPrints second moment :=
  List.filterMap_append

theorem buyPrints_cons_cons (first second : MarketEvent × OrderBook ρ)
    (rest : List (MarketEvent × OrderBook ρ)) (moment : Instant) :
    buyPrints (first :: second :: rest) moment =
      buyPrints [first, second] moment ++ buyPrints rest moment :=
  buyPrints_append [first, second] rest moment

/-! ## The trade of one event -/

namespace BarAggregator

theorem buyPrint?_toEvent (trade : Trade) (moment : Instant) :
    buyPrint? trade.toEvent moment =
      if trade.header.side.isBuy then
        some ⟨trade.execution.execPrice, trade.execution.execQty, moment⟩
      else none := by
  by_cases buying : trade.header.side.isBuy <;> simp [buyPrint?, buying, Option.filter]

theorem buyPrint?_of_order {event : MarketEvent} (order : Trade.ofEvent? event = none)
    (moment : Instant) : buyPrint? event moment = none := by
  simp [buyPrint?, order]

/-- Showing an event deleted changes nothing of the trade it reports. -/
theorem buyPrint?_deleted (event : MarketEvent) (moment : Instant) :
    buyPrint? (event.mapHeader fun header => { header with action := Action.delete }) moment =
      buyPrint? event moment := by
  cases event <;>
    simp [buyPrint?, Trade.ofEvent?, MarketEvent.mapHeader, MarketEvent.withHeader,
      MarketEvent.header, Option.filter]

end BarAggregator

/-- A fill of a balanced order takes its quantity off what remains. -/
theorem Header.Balanced.applyExecution_remainingQty {header : Header} (balanced : header.Balanced)
    (qty : Int64) (price : Decimal) :
    (header.applyExecution qty price).remainingQty = header.remainingQty - qty := by
  rw [balanced.remainingQty_eq]
  simp only [Header.applyExecution]
  grind

/-! ## What an order has left -/

namespace OrderBook

variable {book : OrderBook ρ} {side : Side} {key : OrderKey} {order : MarketEvent}

theorem remainingOf_of_find? (found : (book.sideOf side).find? key = some order) :
    book.remainingOf side key = order.header.remainingQty := by
  simp [remainingOf, found]

@[simp] theorem remainingOf_record (book : OrderBook ρ) (trade : Trade) (side : Side)
    (key : OrderKey) : (book.record trade).remainingOf side key = book.remainingOf side key := by
  simp [remainingOf]

@[simp] theorem remainingOf_fill_opposite (book : OrderBook ρ) (side : Side) (key other : OrderKey)
    (filled : Header) :
    (book.fill side true other filled).remainingOf side key = book.remainingOf side key := by
  simp [remainingOf]

/-- A fill leaves the order it fills with what the fill leaves it, nothing when it comes off. -/
theorem remainingOf_fill_own (found : (book.sideOf side).find? key = some order)
    (filled : Header) :
    (book.fill side false key filled).remainingOf side key = filled.remainingQty := by
  rw [remainingOf, sideOf_fill_own]
  by_cases exhausted : filled.remainingQty = 0
  · -- The order comes off its side, and so has nothing left.
    have gone : ((book.sideOf side).fill key filled).find? key = none := by
      unfold BookSide.fill
      simp only [exhausted, beq_self_eq_true, if_true, BookSide.find?_erase_self]
    simp [gone, exhausted]
  · simp [BookSide.find?_fill_self found exhausted]

end OrderBook

/-! ## One round of matching -/

variable {book after : OrderBook ρ} {side : Side} {key : OrderKey} {now : Instant}

/-- A round of matching feeds the bars one trade, the bid's, with the round's quantity: of the
aggressor's trade and the resting order's, exactly one is on the buy side, and both carry the
quantity and price of the round. The round takes that quantity off the aggressor. -/
theorem OrderBook.WellFormed.round_feeds (wellFormed : book.WellFormed)
    {aggressor resting : MarketEvent} {trade : Trade}
    (found : (book.sideOf side).find? key = some aggressor)
    (chosen : book.tradeFor aggressor (book.oppositeOf side).orders = some trade)
    (contra : (book.oppositeOf side).find? trade.contraKey = some resting)
    (moment : Instant) (shown : OrderBook ρ) :
    buyPrints [((trade.withHeader { trade.header with transactTime := now }).toEvent, shown),
        (((trade.counterpart resting.header).withHeader
          { (trade.counterpart resting.header).header with transactTime := now }).toEvent,
          shown)] moment =
      [⟨trade.execution.execPrice, trade.execution.execQty, moment⟩] ∧
    (book.afterRound side key now aggressor resting trade).remainingOf side key =
      aggressor.header.remainingQty - trade.execution.execQty := by
  have aggressorMember := (wellFormed.sideOf side).mem_of_find? found
  have balanced := (wellFormed.sideOf side).balanced aggressor aggressorMember
  obtain ⟨restingMember, -, rfl⟩ := wellFormed.matchRound_trade found chosen contra
  -- The aggressor's trade is on its side, the resting order's on the other.
  have aggressorBuys : aggressor.header.side.isBuy = side.isBuy :=
    ((wellFormed.sideOf side).isBuy_of_mem aggressorMember).trans (wellFormed.buying_sideOf side)
  have restingBuys : resting.header.side.isBuy = !side.isBuy := by
    rw [(wellFormed.oppositeOf side).isBuy_of_mem restingMember, wellFormed.buying_oppositeOf]
  refine ⟨?_, ?_⟩
  · cases buying : side.isBuy <;>
      simp [buyPrints, buyPrint?_toEvent, Trade.withHeader, Trade.counterpart, Trade.settle_header,
        PriceTime.tradeAgainst, Header.applyExecution, aggressorBuys, restingBuys, buying]
  · simp only [OrderBook.afterRound, OrderBook.remainingOf_record,
      OrderBook.remainingOf_fill_opposite]
    rw [OrderBook.remainingOf_fill_own found, balanced.applyExecution_remainingQty]

/-- Matching feeds the bars one trade for each round, two events shown for each, and in all the
quantity it took off the aggressor: what it had less what it has left. -/
theorem MatchShows.feeds {shows : List (MarketEvent × OrderBook ρ)}
    (matched : MatchShows side key now book shows after) (wellFormed : book.WellFormed)
    (moment : Instant) :
    volumeOf (buyPrints shows moment) = book.remainingOf side key - after.remainingOf side key ∧
      2 * (buyPrints shows moment).length = shows.length := by
  induction matched with
  | done finished => simp [buyPrints, volumeOf]
  | @round book final aggressor resting trade rest found live chosen contra _ ih =>
    obtain ⟨pair, left⟩ := wellFormed.round_feeds found chosen contra moment
      (book.afterRound side key now aggressor resting trade)
    obtain ⟨volume, count⟩ := ih ((MatchRound.traded found live chosen contra).wellFormed wellFormed)
    -- The round's two events, then the rounds after it.
    rw [buyPrints_cons_cons, pair]
    refine ⟨?_, ?_⟩
    · rw [volumeOf_append, volume, left, OrderBook.remainingOf_of_find? found]
      simp only [volumeOf, List.foldl_cons, List.foldl_nil]
      grind
    · simp only [List.singleton_append, List.length_cons] at count ⊢
      omega

/-! ## One operation -/

/-- What the events an operation shows feed the bar subscriber at `moment`, read off the request:
a new order feeds one trade per round of its matching, two events shown for each besides the
order's own, and in all the quantity it matched, its quantity less what it has left; an order
whose key already rests feeds nothing; an outside trade feeds, when its order is a bid, the
quantity the book took off that order; a delete feeds nothing when it finds its order, and
otherwise the trade the request names, when that is a buy-side trade. -/
def FeedsBars (moment : Instant) (book after : OrderBook ρ)
    (shows : List (MarketEvent × OrderBook ρ)) : BookRequest → Prop
  | .add event =>
    match Trade.ofEvent? event with
    | none =>
      if (book.sideOf event.header.side).contains event.key then buyPrints shows moment = []
      else
        volumeOf (buyPrints shows moment) =
            event.header.remainingQty - after.remainingOf event.header.side event.key ∧
          2 * (buyPrints shows moment).length + 1 = shows.length
    | some trade =>
      volumeOf (buyPrints shows moment) =
        if trade.header.side.isBuy then
          book.remainingOf trade.header.side trade.header.key -
            after.remainingOf trade.header.side trade.header.key
        else 0
  | .delete event =>
    buyPrints shows moment =
      if (book.sideOf event.header.side).contains event.key then []
      else (buyPrint? event moment).toList

/-- A placed order is on the book, stamped, with all its quantity. -/
theorem OrderBook.remainingOf_placeOrder (book : OrderBook ρ) (now : Instant) (event : MarketEvent) :
    (book.placeOrder now event).remainingOf event.header.side event.key =
      event.header.remainingQty := by
  have found := @BookSide.find?_insert_self (book.sideOf event.header.side)
    (event.withHeader (OrderBook.stamp now event.header))
  simp only [MarketEvent.key_withHeader, OrderBook.key_stamp] at found
  simp [OrderBook.remainingOf, OrderBook.placeOrder, MarketEvent.key, found]

/-- Every operation feeds the bars what `FeedsBars` reads off its request. -/
theorem Publishes.feedsBars {request : BookRequest} {shows : List (MarketEvent × OrderBook ρ)}
    (publishes : Publishes now request book shows after) (wellFormed : book.WellFormed)
    (admits : book.Admits request) (moment : Instant) :
    FeedsBars moment book after shows request := by
  cases publishes with
  | @placed _ _ event matchShows order fresh matched =>
    -- The order's own event is no trade; its matching feeds the rest.
    have placedWell := wellFormed.placeOrder now (admits event rfl) order fresh
    obtain ⟨volume, count⟩ := matched.feeds placedWell moment
    have ownNone : buyPrint? (event.withHeader (OrderBook.stamp now event.header)) moment = none :=
      buyPrint?_of_order (MarketEvent.ofEvent?_withHeader order _) moment
    have skipped : buyPrints ((event.withHeader (OrderBook.stamp now event.header),
        book.placeOrder now event) :: matchShows) moment = buyPrints matchShows moment := by
      simp [buyPrints, ownNone]
    simp only [FeedsBars, order, fresh, Bool.false_eq_true, if_false, skipped, List.length_cons]
    rw [volume, OrderBook.remainingOf_placeOrder]
    exact ⟨rfl, by omega⟩
  | duplicate order resting =>
    simp [FeedsBars, order, resting, buyPrints]
  | @unknown _ event trade outside missing =>
    have nothing : book.remainingOf trade.header.side trade.header.key = 0 := by
      simp [OrderBook.remainingOf, missing]
    simp [FeedsBars, outside, buyPrints, volumeOf, nothing]
  | @applied _ event resting trade outside fillable =>
    -- The applied trade is on the order's side, with the quantity the book took off it.
    have found : (book.sideOf trade.header.side).find? trade.header.key = some resting :=
      fillable.1
    have balanced := (wellFormed.sideOf trade.header.side).balanced resting
      ((wellFormed.sideOf trade.header.side).mem_of_find? found)
    have left : (book.applyOutside now trade resting).remainingOf trade.header.side
        trade.header.key = resting.header.remainingQty - trade.appliedQty resting.header.remainingQty := by
      simp only [OrderBook.applyOutside, OrderBook.remainingOf_record]
      rw [OrderBook.remainingOf_fill_own found, Trade.filledOn, balanced.applyExecution_remainingQty]
    simp only [FeedsBars, outside, buyPrints, List.filterMap_cons, List.filterMap_nil,
      buyPrint?_toEvent, OrderBook.remainingOf_of_find? found, left]
    by_cases buying : trade.header.side.isBuy
    · simp only [Trade.appliedOn, buying, if_true, volumeOf, List.foldl_cons, List.foldl_nil]
      grind
    · simp [Trade.appliedOn, buying, volumeOf]
  | @taken _ event resting found =>
    -- The order taken off is an order, not a trade.
    have isOrder := (wellFormed.sideOf event.header.side).ofEvent?_of_mem
      ((wellFormed.sideOf event.header.side).mem_of_find? found)
    have resting : (book.sideOf event.header.side).contains event.key = true := by
      simp [BookSide.contains, found]
    simp [FeedsBars, resting, buyPrints, MarketEvent.mapHeader,
      buyPrint?_of_order (MarketEvent.ofEvent?_withHeader isOrder _)]
  | @missed _ event missing =>
    have absent : (book.sideOf event.header.side).contains event.key = false := by
      simp [BookSide.contains, missing]
    simp only [FeedsBars, absent, Bool.false_eq_true, if_false, buyPrints, List.filterMap_cons,
      List.filterMap_nil, buyPrint?_deleted]
    cases buyPrint? event moment <;> rfl

/-! ## The bars of a desk -/

namespace BarAggregator

/-- Trade bars follow the runs of the trades. Split the trades fed to a fresh aggregator into
maximal runs of consecutive trades whose times truncate to the same instant. The bars summarise
the last `keep` finished runs, `keep` being raised to at least one, and then the run in progress;
there are none before the first trade. The next trade hands back a bar exactly when some trade
came before it in another bucket than its own, and that bar summarises the last run. The bars
ever formed, those handed back and the one in progress, summarise the runs one for one, so their
volume is the quantity of all the trades. At a desk the bar subscriber feeds the aggregator the
buy-side trade of each event it is shown, whether a match or a fill applied from outside, and
nothing else; and what each operation of the book feeds it is what `FeedsBars` reads off the
request: one trade for each round of matching, with the round's quantity, so that a new order
feeds what it matched, besides the quantity an outside trade takes off a bid, and the trade a
delete names when it finds no order. -/
theorem bars_follow_runs (interval : Duration) (keep : Int) (prints : List TradePrint) :
    let aggregator := (new interval keep).feed prints
    let runs := prints.splitBy (sameBucket interval)
    List.Forall₂ (Summarises interval) aggregator.bars
        (runs.dropLast.drop (runs.dropLast.length - (max keep 1).toNat) ++ runs.getLast?.toList) ∧
    (∀ print : TradePrint,
      (aggregator.onTrade print.price print.qty print.moment).2.isSome =
          prints.getLast?.any (fun last => !sameBucket interval last print) ∧
      ∀ bar, (aggregator.onTrade print.price print.qty print.moment).2 = some bar →
        ∀ run ∈ runs.getLast?, Summarises interval bar run) ∧
    List.Forall₂ (Summarises interval)
      ((new interval keep).handedBack prints ++ aggregator.current.toList) runs ∧
    totalVolume ((new interval keep).handedBack prints ++ aggregator.current.toList) =
      volumeOf prints ∧
    (∀ (audience : DeskAudience) (book : OrderBook DeskRole) (subscription : Subscription DeskRole)
      (event : MarketEvent), subscription.role = .bars →
      deskDelivery audience book subscription event =
        ({ audience with
           bars := audience.bars.map fun bars =>
             bars.feed (buyPrint? event audience.clock).toList },
         Reaction.none)) ∧
    ∀ {ρ : Type} (now moment : Instant) (request : BookRequest) (book after : OrderBook ρ)
      (shows : List (MarketEvent × OrderBook ρ)), book.WellFormed → book.Admits request →
      Publishes now request book shows after → FeedsBars moment book after shows request := by
  intro aggregator runs
  have sameInterval : aggregator.interval = interval := feed_interval prints
  have sameKeep : aggregator.keep = (max keep 1).toNat := by
    rw [show aggregator = _ from rfl, feed_keep, new_keep]
  by_cases empty : prints = []
  · -- nothing traded: no bars, no runs, and the next trade opens the first run
    subst empty
    refine ⟨by simp [aggregator, runs, BarAggregator.bars, new], fun print => ?_,
      by simp [aggregator, runs, handedBack, new],
      by simp [aggregator, handedBack, new, totalVolume, volumeOf], deskDelivery_of_bars,
      fun now moment _ _ _ _ wellFormed admits publishes =>
        publishes.feedsBars wellFormed admits moment⟩
    have opening : (new interval keep).onTrade print.price print.qty print.moment = _ :=
      onTrade_of_none rfl
    simp [aggregator, runs, opening]
  obtain ⟨done, current, traded, split, holds, formed⟩ := Holds.of_new interval keep empty
  have runsEq : runs = done ++ [current] := by
    rw [show runs = prints.splitBy (sameBucket interval) from rfl, traded]
    exact split.splitBy_eq
  have last : prints.getLast? = some (current.getLast split.nonempty) := by
    rw [traded, List.getLast?_append_of_ne_nil _ split.nonempty,
      List.getLast?_eq_some_getLast split.nonempty]
  obtain ⟨bar, holding, summary⟩ := holds.current
  rw [sameInterval] at summary
  -- every bar ever formed: the ones handed back, then the one in progress
  have everFormed : List.Forall₂ (Summarises interval)
      ((new interval keep).handedBack prints ++ aggregator.current.toList) runs := by
    rw [holding, runsEq]
    exact List.rel_append formed (.cons summary .nil)
  refine ⟨?_, fun print => ?_, everFormed, ?_, deskDelivery_of_bars,
    fun now moment _ _ _ _ wellFormed admits publishes =>
      publishes.feedsBars wellFormed admits moment⟩
  · have kept := holds.bars
    rw [sameInterval, sameKeep] at kept
    simpa [runsEq] using kept
  · obtain ⟨closing, closingSummary, handed⟩ := holds.onTrade_snd split.nonempty print
    rw [sameInterval] at closingSummary handed
    rw [handed, last, runsEq]
    cases same : sameBucket interval (current.getLast split.nonempty) print <;>
      simp [closingSummary, same]
  · rw [totalVolume_of_summarise everFormed, List.flatten_splitBy]

/-- A bid of client `c` for ten at 100, then a fill of it applied from outside. No offer is ever
sent, so nothing is matched. -/
def outsideFillSteps : List DeskStep :=
  [.add (.bid { Header.empty with
      clientId := "c", clientOrderId := "b1", side := Side.buy, price := 100, orderQty := 10,
      remainingQty := 10 }),
   .add (.fill { Header.empty with clientId := "c", clientOrderId := "b1", side := Side.buy }
      ⟨4, 100, "", ""⟩)]

/-- On a desk keeping minute bars, a fill applied from outside to a resting bid forms a bar of
volume ten although nothing was matched: the bars count every buy-side trade, not matches. -/
theorem outside_fill_forms_bar_volume :
    let desk := ((Desk.new "VOD.L" Instant.zero [] (some (⟨60000000000⟩, 10)) [] "").run
      outsideFillSteps).1
    desk.book.offers.orders.isEmpty = true ∧
      (desk.audience.bars.map fun bars => totalVolume bars.bars) = some 10 := by
  decide +kernel

end BarAggregator

end Bourse
