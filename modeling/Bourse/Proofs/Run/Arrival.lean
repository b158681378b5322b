import Bourse.Proofs.Run.Reach
import Bourse.Proofs.Book.Thinning

/-!
# The sides of a reachable book stand in priority order

Every book reached from empty, through any calls and whatever its subscribers ask for, keeps the
representation invariant of its sides (`BookSide.WellFormed`: best first, each key once, only
orders of the side's own direction, quantities that add up) and one fact that needs the
history: of two orders of equal priority, the one placed first stands first
(`BookSide.Arrived`). The placement of a resting order is the latest placement of its key on its
side (`latestPlacement`), since an order is placed only when its key does not rest there.

Insertion puts a new order behind every order of its priority, and the new placement is later
than all others; every other operation thins the sides, which keeps the order of what is left.
So the invariant holds on every reachable run (`Reachable.sides_in_priority_order`), and with
it what readers of a side rely on: the index by key and the list hold the same orders, every
resting order is found by its key, a deleted key is found no more, and the best limit is the best
price of the limit orders on the side.
-/

namespace Bourse

variable {ρ σ : Type}

/-- Every placement of a history was made with fewer placements before it than the history
holds. -/
def SerialsBelow (history : List Placement) : Prop :=
  ∀ placement ∈ history, placement.serial < history.length

/-- A placement made with as many placements before it as the history holds keeps every serial
below the length. -/
theorem SerialsBelow.cons {history : List Placement} (below : SerialsBelow history)
    {placement : Placement} (serial : placement.serial = history.length) :
    SerialsBelow (placement :: history) := by
  intro member isMember
  rcases List.mem_cons.mp isMember with same | old
  · rw [same, serial, List.length_cons]
    omega
  · have earlier := below member old
    rw [List.length_cons]
    omega

/-- The orders of a side in the order they arrived among equal priority: each resting order was
placed, and of two orders of equal rank the one placed first stands first. -/
structure BookSide.Arrived (side : BookSide) (history : List Placement) : Prop where
  /-- Every resting order has a placement. -/
  placed : ∀ order ∈ side.orders, (latestPlacement history side.buying order.key).isSome
  /-- Of two orders of equal rank, the earlier placed stands first. -/
  firstPlacedFirst : side.orders.Pairwise fun earlier later =>
    side.rank later.header = side.rank earlier.header →
      ∀ first second, latestPlacement history side.buying earlier.key = some first →
        latestPlacement history side.buying later.key = some second → first.serial < second.serial

namespace BookSide.Arrived

variable {side : BookSide} {history : List Placement}

/-- What thins a side keeps the order in which its orders arrived. -/
theorem of_thins (arrived : side.Arrived history) {after : BookSide} (thins : side.Thins after) :
    after.Arrived history where
  placed := by
    intro order member
    obtain ⟨source, sourceMember, same⟩ := thins.exists_of_mem member
    have sameKey : source.key = order.key := congrArg (fun standing => standing.1.key) same
    rw [thins.1, ← sameKey]
    exact arrived.placed source sourceMember
  firstPlacedFirst := by
    have kept := thins.pairwise (fun earlier later =>
      priority side.buying later.market later.price =
        priority side.buying earlier.market earlier.price →
      ∀ first second, latestPlacement history side.buying earlier.key = some first →
        latestPlacement history side.buying later.key = some second →
          first.serial < second.serial) arrived.firstPlacedFirst
    unfold BookSide.rank
    rw [thins.1]
    exact kept

/-- A placement of no resting order's key on the side changes nothing. -/
theorem cons_of_elsewhere (arrived : side.Arrived history) {placement : Placement}
    (elsewhere : ∀ order ∈ side.orders, placement.places side.buying order.key = false) :
    side.Arrived (placement :: history) where
  placed := by
    intro order member
    rw [latestPlacement_cons_of_not_places (elsewhere order member)]
    exact arrived.placed order member
  firstPlacedFirst := by
    refine arrived.firstPlacedFirst.imp_of_mem ?_
    intro earlier later earlierMember laterMember ordered
    rw [latestPlacement_cons_of_not_places (elsewhere earlier earlierMember),
      latestPlacement_cons_of_not_places (elsewhere later laterMember)]
    exact ordered

/-- An order inserted with the latest placement of all stands behind every order of its
priority. -/
theorem insert (arrived : side.Arrived history) (ranked : side.Ranked) {order : MarketEvent}
    {placement : Placement} (latest : latestPlacement history side.buying order.key = some placement)
    (last : ∀ resting ∈ side.orders, ∀ earlier,
      latestPlacement history side.buying resting.key = some earlier →
        earlier.serial < placement.serial) :
    (side.insert order).Arrived history where
  placed := by
    obtain ⟨front, back, whole, inserted, -, -⟩ := insert_orders_split side ranked order
    intro resting member
    simp only [buying_insert]
    rw [inserted] at member
    rcases List.mem_append.mp member with inFront | inRest
    · exact arrived.placed resting (by simp [whole, inFront])
    · rcases List.mem_cons.mp inRest with same | inBack
      · simp [same, latest]
      · exact arrived.placed resting (by simp [whole, inBack])
  firstPlacedFirst := by
    obtain ⟨front, back, whole, inserted, frontBetter, backWorse⟩ :=
      insert_orders_split side ranked order
    have old := arrived.firstPlacedFirst
    rw [whole, List.pairwise_append] at old
    obtain ⟨frontOrdered, backOrdered, across⟩ := old
    change (side.insert order).orders.Pairwise fun earlier later =>
      side.rank later.header = side.rank earlier.header →
        ∀ first second, latestPlacement history side.buying earlier.key = some first →
          latestPlacement history side.buying later.key = some second →
            first.serial < second.serial
    rw [inserted, List.pairwise_append, List.pairwise_cons]
    refine ⟨frontOrdered, ⟨?_, backOrdered⟩, ?_⟩
    · -- Every order behind the new one ranks strictly lower.
      intro later member sameRank
      exact absurd sameRank (backWorse later member).ne
    · intro earlier earlierMember later laterMember
      rcases List.mem_cons.mp laterMember with same | inBack
      · -- The new order was placed after every order already there.
        intro _ first second earlierPlaced laterPlaced
        rw [same, latest] at laterPlaced
        cases laterPlaced
        exact last earlier (by simp [whole, earlierMember]) first earlierPlaced
      · exact across earlier earlierMember later inBack

/-- A placement on the other side changes nothing here. -/
theorem place_other (arrived : side.Arrived history) {placement : Placement}
    (away : placement.header.side.isBuy ≠ side.buying) : side.Arrived (placement :: history) :=
  arrived.cons_of_elsewhere fun _ _ => by simp [Placement.places, away]

/-- The placement of a fresh order, made after all others, keeps the order of arrival once the
order is inserted. -/
theorem place_own (arrived : side.Arrived history) (ranked : side.Ranked)
    (below : SerialsBelow history) {order : MarketEvent}
    (fresh : ∀ resting ∈ side.orders, resting.key ≠ order.key) {placement : Placement}
    (lands : placement.header.side.isBuy = side.buying) (keyed : placement.header.key = order.key)
    (serial : placement.serial = history.length) :
    (side.insert order).Arrived (placement :: history) := by
  have elsewhere (resting : MarketEvent) (member : resting ∈ side.orders) :
      placement.places side.buying resting.key = false := by
    simp [Placement.places, keyed, Ne.symm (fresh resting member)]
  refine (arrived.cons_of_elsewhere elsewhere).insert ranked
    (latestPlacement_cons_of_places (by simp [Placement.places, lands, keyed])) ?_
  -- Every order already there was placed before.
  intro resting member earlier placed
  rw [latestPlacement_cons_of_not_places (elsewhere resting member)] at placed
  rw [serial]
  exact below earlier (mem_of_latestPlacement placed)

end BookSide.Arrived

/-- Of two orders of equal priority on either side of the book, the one placed first stands
first; every placement was made with fewer placements before it than the history holds. -/
structure OrderBook.Arrived (book : OrderBook ρ) (history : List Placement) : Prop where
  serials : SerialsBelow history
  bids : book.bids.Arrived history
  offers : book.offers.Arrived history

namespace OrderBook.Arrived

variable {book after : OrderBook ρ} {history : List Placement}

theorem empty (symbol : String) (strategy : ExecutionStrategy) :
    (OrderBook.empty symbol strategy : OrderBook ρ).Arrived [] :=
  ⟨fun _ member => (List.not_mem_nil member).elim,
    ⟨fun _ member => (List.not_mem_nil member).elim, .nil⟩,
    ⟨fun _ member => (List.not_mem_nil member).elim, .nil⟩⟩

theorem of_thins (arrived : book.Arrived history) (thins : book.Thins after) :
    after.Arrived history :=
  ⟨arrived.serials, arrived.bids.of_thins thins.1, arrived.offers.of_thins thins.2⟩

/-- Placing a fresh order, with the latest placement of all, keeps the order of arrival on both
sides. -/
theorem place (arrived : book.Arrived history) (wellFormed : book.WellFormed) (now : Instant)
    {event : MarketEvent} (fresh : (book.sideOf event.header.side).contains event.key = false) :
    (book.placeOrder now event).Arrived
      (⟨OrderBook.stamp now event.header, history.length, book.tape.size⟩ :: history) := by
  have serials : SerialsBelow
      (⟨OrderBook.stamp now event.header, history.length, book.tape.size⟩ :: history) :=
    arrived.serials.cons rfl
  have others : ∀ resting ∈ (book.sideOf event.header.side).orders,
      resting.key ≠ (event.withHeader (OrderBook.stamp now event.header)).key := by
    simpa [MarketEvent.key] using
      (wellFormed.sideOf event.header.side).indexed.contains_eq_false_iff.mp fresh
  unfold OrderBook.placeOrder OrderBook.setSide
  simp only [OrderBook.side_stamp]
  by_cases buys : event.header.side.isBuy = true
  · -- A buy order goes on the bids; the offers see a placement of the other side.
    simp only [OrderBook.sideOf, buys, if_true] at others ⊢
    exact ⟨serials, arrived.bids.place_own wellFormed.bids.ranked arrived.serials others
      (by simp [buys, wellFormed.bidsBuying]) (by simp [MarketEvent.key]) rfl,
      arrived.offers.place_other (by simp [buys, wellFormed.offersSelling])⟩
  · -- Any other order goes on the offers.
    have sells : event.header.side.isBuy = false := by simpa using buys
    simp only [OrderBook.sideOf, sells, Bool.false_eq_true, if_false] at others ⊢
    exact ⟨serials, arrived.bids.place_other (by simp [sells, wellFormed.bidsBuying]),
      arrived.offers.place_own wellFormed.offers.ranked arrived.serials others
        (by simp [sells, wellFormed.offersSelling]) (by simp [MarketEvent.key]) rfl⟩

variable {now : Instant} {request : BookRequest} {finished : Bool}

/-- Every operation the book admits keeps the order of arrival: a placement puts its order in
place and then thins the book, and anything else thins it and places nothing. -/
theorem perform (arrived : book.Arrived history) (wellFormed : book.WellFormed)
    (admits : book.Admits request) (performs : Performs now request book after finished) :
    after.Arrived (placeAfter now book request history) := by
  rcases performs.thins wellFormed admits with
    ⟨event, rfl, order, fresh, thinned, -⟩ | ⟨thinned, unchanged⟩
  · rw [placeAfter_order order fresh]
    exact (arrived.place wellFormed now fresh).of_thins thinned
  · rw [unchanged]
    exact arrived.of_thins thinned

end OrderBook.Arrived

/-- The sides of a book as its readers rely on them. -/
structure OrderBook.InPriorityOrder (book : OrderBook ρ) (history : List Placement) : Prop where
  /-- Each side stands best first (market orders, then limits from the best price), holds each
  key once, holds only orders of its own direction, and every order's quantities add up. -/
  wellFormed : book.WellFormed
  /-- Of two orders of equal priority, the one placed first stands first. -/
  arrived : book.Arrived history
  /-- The index and the list are one bijection: the index holds an order under a key exactly
  when the order rests on the side with that key. -/
  indexed : ∀ side ∈ [book.bids, book.offers], ∀ key order,
    side.index key = some order ↔ order ∈ side.orders ∧ order.key = key
  /-- Every resting order is found by its key. -/
  found : ∀ side ∈ [book.bids, book.offers], ∀ order ∈ side.orders,
    side.find? order.key = some order
  /-- Once the order with a key is taken off, a second delete finds nothing, and no order with
  the key is left in the list. -/
  erased : ∀ side ∈ [book.bids, book.offers], ∀ key, (side.erase key).find? key = none ∧
    ∀ order ∈ (side.erase key).orders, order.key ≠ key
  /-- What remains of an order is what was ordered less what was executed. -/
  remaining : ∀ side ∈ [book.bids, book.offers], ∀ order ∈ side.orders,
    order.header.remainingQty = order.header.orderQty - order.header.cumQty
  /-- The best limit is the price of a limit order on the side, and none has a better one. -/
  bestLimit : ∀ side ∈ [book.bids, book.offers], ∀ price, side.bestLimit? = some price →
    (∃ order ∈ side.orders, order.header.isMarket = false ∧ order.header.price = price) ∧
      ∀ order ∈ side.orders, order.header.isMarket = false →
        side.worse price order.header.price = false

/-- A well-formed book whose orders stand in the order they arrived is in priority order. -/
theorem OrderBook.WellFormed.inPriorityOrder {book : OrderBook ρ} {history : List Placement}
    (wellFormed : book.WellFormed) (arrived : book.Arrived history) :
    book.InPriorityOrder history := by
  have sides : ∀ side ∈ [book.bids, book.offers], side.WellFormed := by
    intro side member
    simp only [List.mem_cons, List.not_mem_nil, or_false] at member
    rcases member with bids | offers
    · exact bids ▸ wellFormed.bids
    · exact offers ▸ wellFormed.offers
  exact ⟨wellFormed, arrived,
    fun side member => (sides side member).index_eq_some_iff,
    fun side member _ resting => (sides side member).find?_of_mem resting,
    fun side member key => ⟨BookSide.find?_erase_self side key, (sides side member).not_mem_erase key⟩,
    fun side member order resting => ((sides side member).balanced order resting).remainingQty_eq,
    fun side member _ best => (sides side member).ranked.bestLimit?_best best⟩

/-- Every book reached from empty, through any calls and whatever its subscribers ask for, is in
priority order: its sides are well formed, and of two orders of equal priority the one placed
first stands first. -/
theorem Reachable.sides_in_priority_order {deliver : Delivery ρ σ} {symbol : String}
    {strategy : ExecutionStrategy} {admits : BookCall ρ → BookRun ρ σ → Prop}
    {run : BookRun ρ σ} {history : List Placement}
    (reached : Reachable deliver symbol strategy admits run history) :
    run.book.InPriorityOrder history := by
  have asks : deliver.Asks fun _ => True := fun _ _ _ _ _ _ _ => trivial
  have allowed : ∀ call run, admits call run → call.Allowed fun _ => True := by
    intro call _ _
    cases call <;> trivial
  obtain ⟨wellFormed, arrived⟩ := Reachable.invariant OrderBook.Arrived asks allowed
    (OrderBook.Arrived.empty symbol strategy)
    (fun admits _ wellFormed arrived performs => arrived.perform wellFormed admits performs)
    (fun _ _ _ _ _ arrived => ⟨arrived.serials, arrived.bids, arrived.offers⟩) reached
  exact wellFormed.inPriorityOrder arrived

/-- A book after its first bid, with subscribers that ask for nothing, is in priority order. -/
theorem first_bid_in_priority_order :
    Reachable quietDelivery "ACME" .priceTime (fun _ _ => True)
        (quietRun.after (firstBid.exec quietDelivery)) (firstBid.history quietDelivery quietRun []) ∧
      (quietRun.after (firstBid.exec quietDelivery)).book.InPriorityOrder
        (firstBid.history quietDelivery quietRun []) :=
  have reached := Reachable.call firstBid (Reachable.start ()) trivial
  ⟨reached, Reachable.sides_in_priority_order reached⟩

end Bourse
