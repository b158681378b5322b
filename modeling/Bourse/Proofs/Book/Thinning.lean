import Bourse.Proofs.Book.History

/-!
# What operations do to the orders at rest

Apart from the order it places, no operation puts anything on the book: a round of matching, an
outside trade and a delete take orders off and fill others in place, and a filled order keeps
its shape and, unless it leaves, some quantity. In those terms every operation thins the book
(`OrderBook.Thins`), and a placement does once its order is in place (`Performs.thins`). A
property that reads only the standings of the resting orders, their shapes and whether they have
quantity left, then goes across every operation by one lemma.
-/

namespace Bourse

variable {ρ : Type}

namespace MarketEvent

variable {source order : MarketEvent}

theorem shape_eq_of_standing (same : source.standing = order.standing) :
    source.shape = order.shape :=
  congrArg Prod.fst same

/-- An order that stands as one with quantity left has quantity left. -/
theorem live_of_standing (same : source.standing = order.standing)
    (live : 0 < order.header.remainingQty) : 0 < source.header.remainingQty := by
  have sameLive := congrArg Prod.snd same
  simp only [standing, live, decide_true, decide_eq_true_eq] at sameLive
  exact sameLive

end MarketEvent

/-- A relation between orders that reads only their shapes holds between the orders of a
thinned side, in their order, when it held on the side. -/
theorem BookSide.Thins.pairwise {side after : BookSide} (thins : side.Thins after)
    (related : OrderShape → OrderShape → Prop)
    (holds : side.orders.Pairwise fun earlier later => related earlier.shape later.shape) :
    after.orders.Pairwise fun earlier later => related earlier.shape later.shape :=
  List.pairwise_map.mp ((List.pairwise_map.mpr holds).sublist thins.shapes)

namespace OrderBook

/-- A book thins into `after` when both of its sides do. -/
def Thins (book after : OrderBook ρ) : Prop :=
  book.bids.Thins after.bids ∧ book.offers.Thins after.offers

namespace Thins

variable {book middle after : OrderBook ρ}

theorem refl (book : OrderBook ρ) : book.Thins book := ⟨.refl _, .refl _⟩

theorem trans (first : book.Thins middle) (second : middle.Thins after) : book.Thins after :=
  ⟨first.1.trans second.1, first.2.trans second.2⟩

/-- Putting a trade on the tape changes no side. -/
theorem record (thins : book.Thins after) (trade : Trade) : book.Thins (after.record trade) :=
  thins

theorem sideOf (thins : book.Thins after) (side : Side) :
    (book.sideOf side).Thins (after.sideOf side) := by
  unfold OrderBook.sideOf
  split
  · exact thins.1
  · exact thins.2

theorem oppositeOf (thins : book.Thins after) (side : Side) :
    (book.oppositeOf side).Thins (after.oppositeOf side) := by
  unfold OrderBook.oppositeOf
  split
  · exact thins.2
  · exact thins.1

end Thins

/-- Putting back a thinned side thins the book. -/
theorem thins_store (book : OrderBook ρ) (side : Side) (opposite : Bool) {orders : BookSide}
    (thins : (book.pick side opposite).Thins orders) :
    book.Thins (book.store side opposite orders) := by
  cases opposite <;> cases buys : side.isBuy <;>
    simp_all [store, pick, setSide, setOpposite, sideOf, oppositeOf, Thins, BookSide.Thins.refl]

/-- Taking an order off thins the book. -/
theorem thins_erase (book : OrderBook ρ) (side : Side) (key : OrderKey) :
    book.Thins (book.setSide side ((book.sideOf side).erase key)) :=
  book.thins_store side false ((book.sideOf side).erase_thins key)

/-- A fill by a positive quantity within what remains thins a well-formed book. -/
theorem WellFormed.fill_thins {book : OrderBook ρ} (wellFormed : book.WellFormed) {side : Side}
    (opposite : Bool) {key : OrderKey} {order : MarketEvent}
    (found : (book.pick side opposite).find? key = some order) {qty : Int64} {price : Decimal}
    (positive : 0 < qty) (within : qty ≤ order.header.remainingQty) :
    book.Thins (book.fill side opposite key (order.header.applyExecution qty price)) :=
  book.thins_store side opposite ((wellFormed.pick side opposite).fill_thins found positive within)

end OrderBook

variable {side : Side} {key : OrderKey} {now : Instant} {book after : OrderBook ρ}

/-- A round of matching thins a well-formed book: it fills the aggressor, then the resting
order, each within what it has left. -/
theorem MatchRound.thins (round : MatchRound side key now book after)
    (wellFormed : book.WellFormed) : book.Thins after := by
  cases round with
  | @traded aggressor resting _ found live chosen contra =>
    obtain ⟨-, eligible, rfl⟩ := wellFormed.matchRound_trade found chosen contra
    obtain ⟨positive, withinAggressor, withinResting⟩ :=
      PriceTime.tradeAgainst_within live (PriceTime.live_of_eligible eligible)
    -- The aggressor is filled first, then the resting order on the side the first fill left.
    let trade := PriceTime.tradeAgainst aggressor.header resting.header
    let filled := book.fill side false key
      (aggressor.header.applyExecution trade.execution.execQty trade.execution.execPrice)
    have aggressorFilled : book.Thins filled :=
      wellFormed.fill_thins false found positive withinAggressor
    have restingFilled : filled.Thins (filled.fill side true trade.contraKey
        (resting.header.applyExecution trade.execution.execQty trade.execution.execPrice)) :=
      (wellFormed.fill false found positive withinAggressor).fill_thins true
        (by simpa [filled, OrderBook.pick] using contra) positive withinResting
    exact ((aggressorFilled.trans restingFilled).record _).record _

/-- Rounds of matching thin a well-formed book. -/
theorem MatchRound.thins_of_rounds
    (rounds : Relation.ReflTransGen (MatchRound side key now) book after)
    (wellFormed : book.WellFormed) : book.Thins after := by
  induction rounds with
  | refl => exact .refl book
  | tail rounds round inductionHypothesis =>
    exact inductionHypothesis.trans (round.thins (MatchRound.wellFormed_of_rounds rounds wellFormed))

/-- What an operation admitted by a well-formed book does to the orders at rest: it places a
fresh order and then thins the book, matched to the end when the operation finished; or it
thins the book and places nothing. -/
theorem Performs.thins {request : BookRequest} {finished : Bool}
    (performs : Performs now request book after finished) (wellFormed : book.WellFormed)
    (admits : book.Admits request) :
    (∃ event, request = .add event ∧ Trade.ofEvent? event = none ∧
      (book.sideOf event.header.side).contains event.key = false ∧
      (book.placeOrder now event).Thins after ∧
      (finished = true → MatchDone event.header.side event.key after)) ∨
    (book.Thins after ∧ ∀ history, placeAfter now book request history = history) := by
  cases performs with
  | placed order fresh matched settled =>
    exact .inl ⟨_, rfl, order, fresh,
      MatchRound.thins_of_rounds matched (wellFormed.placeOrder now (admits _ rfl) order fresh),
      settled⟩
  | settled outside found positive within =>
    refine .inr ⟨(wellFormed.fill_thins false found positive within).record _,
      fun history => placeAfter_eq_self ?_ history⟩
    -- An outside trade is no order.
    intro other same order
    cases same
    rw [outside] at order
    cases order
  | taken found =>
    exact .inr ⟨book.thins_erase _ _,
      fun history => placeAfter_eq_self (fun _ same => by cases same) history⟩
  | unchanged placesNothing =>
    exact .inr ⟨.refl book, fun history => placeAfter_eq_self placesNothing history⟩

end Bourse
