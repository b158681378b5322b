import Mathlib.Order.WithBot
import Mathlib.Data.List.Nodup
import Mathlib.Data.List.TakeWhile
import Bourse.Proofs.Decimal.Order
import Bourse.Book.Side

/-!
# Priority on a side of the book

A side keeps its orders best first. How good an order is depends only on its type and price,
so the order of a side is the order of one number per order, `BookSide.rank`: a market order
is `⊤`, a limit order is its price for bids and the negated price for offers. The comparison
`BookSide.goesBefore` that insertion uses is exactly "strictly higher rank", so a side whose
ranks never increase (`BookSide.Ranked`) stays so under insertion, and insertion is stable: the
new order goes after every order at least as good as it and before every worse one.

Executions change an order's quantities and average price but never its kind, key, side, type
or price; these make up its `OrderShape`. Every structural fact about a side (its priority order,
its keys, which orders may rest on it) is a fact about the shapes of its orders, which fills
leave alone and removals only thin out.
-/

namespace Bourse

/-- What executions leave unchanged in a resting order. -/
structure OrderShape where
  /-- Bid, offer or trade. -/
  kind : EventKind
  /-- The client and the client's order id. -/
  key : OrderKey
  /-- The side code. -/
  side : Side
  /-- Whether the order takes any price. -/
  market : Bool
  /-- The limit price. -/
  price : Decimal

namespace MarketEvent

/-- The shape of an order. -/
def shape (order : MarketEvent) : OrderShape :=
  ⟨order.kind, order.key, order.header.side, order.header.isMarket, order.header.price⟩

@[simp] theorem header_withHeader (order : MarketEvent) (header : Header) :
    (order.withHeader header).header = header := by
  cases order <;> rfl

@[simp] theorem kind_withHeader (order : MarketEvent) (header : Header) :
    (order.withHeader header).kind = order.kind := by
  cases order <;> rfl

@[simp] theorem key_withHeader (order : MarketEvent) (header : Header) :
    (order.withHeader header).key = header.key := by
  cases order <;> rfl

/-- Booking an execution against an order keeps its shape. -/
@[simp] theorem shape_withHeader_applyExecution (order : MarketEvent) (qty : Int64)
    (price : Decimal) :
    (order.withHeader (order.header.applyExecution qty price)).shape = order.shape := by
  cases order <;> rfl

end MarketEvent

/-- The priority of an order on a side that buys when `buying`: a market order outranks every
limit order; limit orders rank by price, higher first for bids and lower first for offers. -/
def priority (buying market : Bool) (price : Decimal) : WithTop ℚ :=
  if market then ⊤ else if buying then (price.value : WithTop ℚ) else ((-price.value : ℚ) : WithTop ℚ)

theorem priority_lt_top (buying : Bool) (price : Decimal) : priority buying false price < ⊤ := by
  simp only [priority, Bool.false_eq_true, if_false]
  split <;> exact WithTop.coe_lt_top _

namespace BookSide

/-- The priority of an order on this side. -/
def rank (side : BookSide) (header : Header) : WithTop ℚ :=
  priority side.buying header.isMarket header.price

/-- The rank of an order is read off its shape. -/
theorem rank_header (side : BookSide) (order : MarketEvent) :
    side.rank order.header = priority side.buying order.shape.market order.shape.price :=
  rfl

/-- A price is worse than another exactly when, as limits, it ranks lower. -/
theorem worse_eq_true_iff (side : BookSide) (first second : Decimal) :
    side.worse first second = true ↔ priority side.buying false first < priority side.buying false second := by
  unfold worse priority
  cases side.buying <;>
    simp only [Bool.false_eq_true, if_false, if_true, WithTop.coe_lt_coe, neg_lt_neg_iff,
      Decimal.lt_eq_true_iff]

/-- Insertion puts an order before a resting one exactly when it ranks strictly higher. -/
theorem goesBefore_eq_true_iff (side : BookSide) (incoming resting : Header) :
    side.goesBefore incoming resting = true ↔ side.rank resting < side.rank incoming := by
  unfold goesBefore rank
  cases incomingMarket : incoming.isMarket <;> cases restingMarket : resting.isMarket
  · simp [worse_eq_true_iff]
  · simp [priority, not_top_lt]
  · simpa [priority] using priority_lt_top side.buying resting.price
  · simp [priority]

theorem goesBefore_eq_false_iff (side : BookSide) (incoming resting : Header) :
    side.goesBefore incoming resting = false ↔ side.rank incoming ≤ side.rank resting := by
  rw [← Bool.not_eq_true, goesBefore_eq_true_iff, not_lt]

/-- The orders stand best first: no order ranks above one before it. -/
def Ranked (side : BookSide) : Prop :=
  side.orders.Pairwise fun earlier later => side.rank later.header ≤ side.rank earlier.header

/-- `insertBefore` cuts the list at the first element it must precede. -/
theorem insertBefore_eq (before : MarketEvent → Bool) (order : MarketEvent)
    (orders : List MarketEvent) :
    insertBefore before order orders =
      orders.takeWhile (fun resting => !before resting) ++
        order :: orders.dropWhile (fun resting => !before resting) := by
  induction orders with
  | nil => rfl
  | cons first rest inductionHypothesis =>
    by_cases precedes : before first = true
    · simp [insertBefore, precedes]
    · simp [insertBefore, precedes, inductionHypothesis]

/-- Insertion adds the new order and keeps every other. -/
theorem mem_insert {side : BookSide} {order other : MarketEvent} :
    other ∈ (side.insert order).orders ↔ other = order ∨ other ∈ side.orders := by
  simp only [insert, insertBefore_eq]
  rw [List.perm_middle.mem_iff, List.mem_cons, List.takeWhile_append_dropWhile]

/-- Insertion is stable: the side is cut in two, the front holding every order at least as good
as the new one, the back every worse one, and the new order goes between them. -/
theorem insert_orders_split (side : BookSide) (ranked : side.Ranked) (order : MarketEvent) :
    ∃ front back, side.orders = front ++ back ∧
      (side.insert order).orders = front ++ order :: back ∧
      (∀ earlier ∈ front, side.rank order.header ≤ side.rank earlier.header) ∧
      (∀ later ∈ back, side.rank later.header < side.rank order.header) := by
  let keep := fun resting : MarketEvent => !side.goesBefore order.header resting.header
  refine ⟨side.orders.takeWhile keep, side.orders.dropWhile keep,
    List.takeWhile_append_dropWhile.symm, insertBefore_eq _ _ _, ?_, ?_⟩
  · intro earlier member
    have kept := List.mem_takeWhile_imp member
    simpa [keep, goesBefore_eq_false_iff] using kept
  · intro later member
    -- The first order of the back is the first the new one outranks; the rest are no better.
    obtain ⟨first, rest, backShape⟩ : ∃ first rest,
        side.orders.dropWhile keep = first :: rest := by
      cases shape : side.orders.dropWhile keep with
      | nil => simp [shape] at member
      | cons first rest => exact ⟨first, rest, rfl⟩
    have firstOutranked : side.rank first.header < side.rank order.header := by
      have stops := @List.head_dropWhile_not _ keep side.orders (by simp [backShape])
      simp only [backShape, List.head_cons, keep, Bool.not_eq_false'] at stops
      exact (goesBefore_eq_true_iff _ _ _).mp stops
    have split := (@List.takeWhile_append_dropWhile _ keep side.orders).symm
    rw [backShape] at split
    have tail : (first :: rest).Pairwise
        fun earlier later => side.rank later.header ≤ side.rank earlier.header := by
      have whole := ranked
      unfold Ranked at whole
      rw [split, List.pairwise_append] at whole
      exact whole.2.1
    rw [backShape] at member
    rcases List.mem_cons.mp member with same | inRest
    · exact same ▸ firstOutranked
    · exact lt_of_le_of_lt ((List.pairwise_cons.mp tail).1 later inRest) firstOutranked

/-- Insertion keeps a side best first. -/
theorem insert_ranked (side : BookSide) (ranked : side.Ranked) (order : MarketEvent) :
    (side.insert order).Ranked := by
  obtain ⟨front, back, whole, inserted, frontBetter, backWorse⟩ :=
    insert_orders_split side ranked order
  have parts := ranked
  unfold Ranked at parts
  rw [whole, List.pairwise_append] at parts
  obtain ⟨frontRanked, backRanked, across⟩ := parts
  change (side.insert order).orders.Pairwise
    fun earlier later => side.rank later.header ≤ side.rank earlier.header
  rw [inserted, List.pairwise_append]
  refine ⟨frontRanked, List.pairwise_cons.mpr ⟨fun later member => (backWorse later member).le,
    backRanked⟩, ?_⟩
  intro earlier earlierMember later laterMember
  rcases List.mem_cons.mp laterMember with same | inBack
  · exact same ▸ frontBetter earlier earlierMember
  · exact across earlier earlierMember later inBack

/-- On a side that stands best first, the best limit is the price of a limit order on the side,
and no limit order there has a better price. -/
theorem Ranked.bestLimit?_best {side : BookSide} (ranked : side.Ranked) {price : Decimal}
    (best : side.bestLimit? = some price) :
    (∃ order ∈ side.orders, order.header.isMarket = false ∧ order.header.price = price) ∧
      ∀ order ∈ side.orders, order.header.isMarket = false →
        side.worse price order.header.price = false := by
  obtain ⟨first, found, priced⟩ := Option.map_eq_some_iff.mp best
  obtain ⟨limit, front, back, whole, markets⟩ := List.find?_eq_some_iff_append.mp found
  have firstLimit : first.header.isMarket = false := by simpa using limit
  refine ⟨⟨first, List.mem_of_find?_eq_some found, firstLimit, priced⟩, ?_⟩
  intro order member orderLimit
  -- Only market orders stand before the first limit order; every later order ranks no higher.
  have ranksBelow : side.rank order.header ≤ side.rank first.header := by
    rw [whole] at member
    rcases List.mem_append.mp member with inFront | inRest
    · have market := markets order inFront
      simp [orderLimit] at market
    · rcases List.mem_cons.mp inRest with same | inBack
      · rw [same]
      · have pairs := ranked
        unfold Ranked at pairs
        rw [whole, List.pairwise_append, List.pairwise_cons] at pairs
        exact pairs.2.1.1 order inBack
  unfold rank at ranksBelow
  rw [firstLimit, orderLimit, priced] at ranksBelow
  rw [Bool.eq_false_iff, ne_eq, worse_eq_true_iff, not_lt]
  exact ranksBelow

end BookSide

end Bourse
