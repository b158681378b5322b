import Bourse.Proofs.Run.Calm
import Bourse.Proofs.Run.Rest

/-!
# Calls that return

The book's own checks stop a run only on an outside trade for an order that rests with nothing
left (`OrderBook.TradesSpent`). Such an order can only rest if it was placed with nothing left:
every fill takes an order off when it leaves nothing. So when every order added, by a client or
by a subscriber, has quantity left (`BookRequest.AddsLive`), every resting order keeps quantity
left (`OrderBook.Live`, carried by every publication: `Delivery.watches_live`), and with
subscribers that never report a broken invariant every call returns
(`Reachable.calls_return`).

The condition on added orders is needed: the check admits an order whose executed quantity is
its whole quantity, and a fill for it stops the call (`fill_for_exhausted_bid_stops`).
-/

namespace Bourse

variable {ρ σ : Type}

/-- Every order on the side has quantity left. -/
def BookSide.Live (side : BookSide) : Prop :=
  ∀ order ∈ side.orders, 0 < order.header.remainingQty

/-- Every resting order of the book has quantity left. -/
def OrderBook.Live (book : OrderBook ρ) : Prop :=
  book.bids.Live ∧ book.offers.Live

/-- The request adds only orders with quantity left; trades and deletes pass. -/
def BookRequest.AddsLive : BookRequest → Prop
  | .add event => Trade.ofEvent? event = none → 0 < event.header.remainingQty
  | .delete _ => True

namespace BookSide.Live

variable {side : BookSide}

theorem insert (live : side.Live) {order : MarketEvent} (positive : 0 < order.header.remainingQty) :
    (side.insert order).Live := by
  intro other member
  rcases BookSide.mem_insert.mp member with rfl | old
  · exact positive
  · exact live other old

theorem erase (live : side.Live) (key : OrderKey) : (side.erase key).Live :=
  fun other member => live other ((BookSide.eraseKey_sublist key side.orders).subset member)

/-- A fill by a positive quantity within what a balanced order has left leaves it with
quantity left, or takes it off. -/
theorem fill (live : side.Live) (indexed : side.Indexed) {key : OrderKey} {order : MarketEvent}
    (found : side.find? key = some order) (balanced : order.header.Balanced) {qty : Int64}
    (positive : 0 < qty) (within : qty ≤ order.header.remainingQty) (price : Decimal) :
    (side.fill key (order.header.applyExecution qty price)).Live := by
  obtain ⟨keyed, front, back, whole, before⟩ := BookSide.find?_eq_some_split indexed found
  have left := (balanced.applyExecution price positive within).2
  intro other member
  rw [BookSide.fill_orders_split whole keyed before (order.header.applyExecution qty price) keyed]
    at member
  rcases List.mem_append.mp member with inFront | inRest
  · exact live other (by simp [whole, inFront])
  · split at inRest
    · exact live other (by simp [whole, inRest])
    · rename_i remains
      rcases List.mem_cons.mp inRest with rfl | inBack
      · -- The filled order stays only with something left, and never below nothing.
        have nonzero : (order.header.applyExecution qty price).remainingQty.toInt ≠ 0 := by
          intro zero
          exact remains (by simpa using Int64.toInt_inj.mp (zero.trans Int64.toInt_zero.symm))
        simpa [Int64.lt_iff_toInt_lt] using lt_of_le_of_ne left (Ne.symm nonzero)
      · exact live other (by simp [whole, inBack])

end BookSide.Live

namespace OrderBook.Live

variable {book : OrderBook ρ}

theorem sideOf (live : book.Live) (side : Side) : (book.sideOf side).Live := by
  unfold OrderBook.sideOf
  split
  · exact live.1
  · exact live.2

theorem oppositeOf (live : book.Live) (side : Side) : (book.oppositeOf side).Live := by
  unfold OrderBook.oppositeOf
  split
  · exact live.2
  · exact live.1

theorem setSide (live : book.Live) (side : Side) {orders : BookSide} (ordersLive : orders.Live) :
    (book.setSide side orders).Live := by
  unfold OrderBook.setSide
  split
  · exact ⟨ordersLive, live.2⟩
  · exact ⟨live.1, ordersLive⟩

theorem setOpposite (live : book.Live) (side : Side) {orders : BookSide}
    (ordersLive : orders.Live) : (book.setOpposite side orders).Live := by
  unfold OrderBook.setOpposite
  split
  · exact ⟨live.1, ordersLive⟩
  · exact ⟨ordersLive, live.2⟩

theorem record (live : book.Live) (trade : Trade) : (book.record trade).Live := live

/-- A fill within what remains keeps every resting order with quantity left. -/
theorem fill (live : book.Live) (wellFormed : book.WellFormed) {side : Side} {opposite : Bool}
    {key : OrderKey} {qty : Int64} {order : MarketEvent}
    (fillable : book.Fillable side opposite key qty order)
    (balanced : order.header.Balanced) (price : Decimal) :
    (book.fill side opposite key (order.header.applyExecution qty price)).Live := by
  have picked : (book.pick side opposite).Live := by
    cases opposite
    · exact live.sideOf side
    · exact live.oppositeOf side
  have filled := picked.fill (wellFormed.pick side opposite).indexed fillable.1 balanced
    fillable.2.1 fillable.2.2 price
  cases opposite
  · exact live.setSide side filled
  · exact live.setOpposite side filled

/-- Placing an order with quantity left keeps every resting order with quantity left. -/
theorem placeOrder (live : book.Live) (now : Instant) {event : MarketEvent}
    (positive : 0 < event.header.remainingQty) : (book.placeOrder now event).Live :=
  live.setSide _ ((live.sideOf _).insert (by simpa using positive))

/-- No resting order is spent, so no outside trade finds one. -/
theorem not_tradesSpent (live : book.Live) (wellFormed : book.WellFormed) (request : BookRequest) :
    ¬book.TradesSpent request := by
  rintro ⟨event, trade, resting, -, -, found, spent⟩
  exact Int64.not_lt.mpr spent ((live.sideOf _) resting ((wellFormed.sideOf _).mem_of_find? found))

end OrderBook.Live

theorem OrderBook.live_empty (symbol : String) (strategy : ExecutionStrategy) :
    (OrderBook.empty symbol strategy : OrderBook ρ).Live := by
  simp [OrderBook.Live, BookSide.Live, OrderBook.empty, BookSide.empty]

/-- A change of subscribers leaves the sides, and so every order's quantity, alone. -/
theorem BookCall.keeps_live (call : BookCall ρ) :
    call.Keeps (fun (_ : σ) (book : OrderBook ρ) => book.Live) := by
  cases call with
  | subscribe name role => exact fun _ _ live => live
  | unsubscribe id => exact fun _ _ live => live
  | add => trivial
  | delete => trivial

/-- When every order added has quantity left, every move the book publishes keeps every
resting order with quantity left: a fill takes off the order it leaves with nothing. -/
theorem Delivery.watches_live (deliver : Delivery ρ σ) {allow : BookRequest → Prop}
    (positive : ∀ event, allow (.add event) → Trade.ofEvent? event = none →
      0 < event.header.remainingQty) :
    deliver.Watches allow fun _ book => book.Live := by
  intro audience before event after shown publication wellFormed _ live
  cases publication with
  | placed allowed order fresh => exact live.placeOrder _ (positive _ allowed order)
  | traded fillable balanced reports => exact (live.fill wellFormed fillable balanced _).record _
  | taken found => exact live.setSide _ ((live.sideOf _).erase _)
  | missed allowed missing => exact live

variable {deliver : Delivery ρ σ} {symbol : String} {strategy : ExecutionStrategy}
  {admits : BookCall ρ → BookRun ρ σ → Prop} {run : BookRun ρ σ} {history : List Placement}

/-- With subscribers that never report a broken invariant, and every order added, by a client
or by a subscriber, with quantity left, every call on a book reached from empty returns: no
check of the book fires. -/
theorem Reachable.calls_return (calm : deliver.Calm) (asks : deliver.Asks BookRequest.AddsLive)
    (allowed : ∀ call run, admits call run → call.Allowed BookRequest.AddsLive)
    (reached : Reachable deliver symbol strategy admits run history) (call : BookCall ρ)
    (callAllowed : call.Allowed BookRequest.AddsLive) : call.Returns deliver run := by
  have watches : deliver.Watches BookRequest.AddsLive fun _ book => book.Live :=
    deliver.watches_live fun _ adds => adds
  obtain ⟨wellFormed, live⟩ := reached.sees calm asks watches allowed
    (fun call _ _ => call.keeps_live) (fun _ => OrderBook.live_empty symbol strategy)
  have ends := call.exec_calm calm asks watches run wellFormed callAllowed call.keeps_live live
  unfold BookCall.Returns
  generalize EStateM.run (call.exec deliver) run = result at ends ⊢
  cases result with
  | ok _ after => exact ⟨after, rfl⟩
  | error _ after =>
    -- Stopped: an outside trade found a spent order, but none rests.
    obtain ⟨stillWellFormed, stillLive, stopped⟩ := ends
    obtain ⟨request, spent⟩ := stopped rfl
    exact absurd spent (stillLive.not_tradesSpent stillWellFormed request)

/-- The first bid offered to an empty book with quiet subscribers returns. -/
theorem first_bid_returns :
    quietDelivery.Calm ∧ quietDelivery.Asks BookRequest.AddsLive ∧
      firstBid.Allowed BookRequest.AddsLive ∧ firstBid.Returns quietDelivery quietRun :=
  have calm : quietDelivery.Calm := fun _ _ _ _ _ => nofun
  have asks : quietDelivery.Asks BookRequest.AddsLive := fun _ _ _ _ _ member => nomatch member
  have allowed : firstBid.Allowed BookRequest.AddsLive := fun _ => by decide
  have reached : Reachable quietDelivery "ACME" .priceTime
      (fun call _ => call.Allowed BookRequest.AddsLive) quietRun [] := .start ()
  ⟨calm, asks, allowed, Reachable.calls_return calm asks (fun _ _ admitted => admitted) reached
    firstBid allowed⟩

/-- A fill for the exhausted bid. -/
def spentFill : BookCall Unit :=
  .add queueLimit Instant.zero (.fill { Header.empty with side := Side.buy }
    { Execution.empty with execQty := 5, execPrice := Decimal.ofInt 100 })

/-- The run after the exhausted bid. -/
def exhaustedRun : BookRun Unit Unit := quietRun.after (exhaustedBid.exec quietDelivery)

/-- The check admits a bid with nothing left, the call returns, and a fill for the bid, which
the check admits too, stops the next call with a broken invariant. -/
theorem fill_for_exhausted_bid_stops :
    Reachable quietDelivery "ACME" .priceTime (fun call run => call.Returns quietDelivery run)
        exhaustedRun (exhaustedBid.history quietDelivery quietRun []) ∧
      quietDelivery.Calm ∧
      (∃ message after, EStateM.run (spentFill.exec quietDelivery) exhaustedRun =
        .error message after) :=
  ⟨Reachable.call exhaustedBid (Reachable.start ()) ⟨_, rfl⟩, fun _ _ _ _ _ => nofun,
    _, _, rfl⟩

end Bourse
