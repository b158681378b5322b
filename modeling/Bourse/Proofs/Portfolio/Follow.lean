import Bourse.Proofs.Portfolio.Mirror
import Bourse.Proofs.Run.Calm

/-!
# A portfolio follows the book

A subscriber that keeps a portfolio (`Delivery.Feeds`) is shown every event the book publishes,
once, for as long as its subscription stays on the book (`OrderBook.SubscribedOnce`). Each
publication keeps the portfolio mirroring the book, and a change of subscribers other than its
own removal changes nothing it mirrors (`BookCall.keeps_follows`). So, by the invariant of calls
with calm subscribers, a portfolio subscribed when the book held nothing of its client mirrors
the book after every call (`BookRun.Called.portfolio_mirrors`) when nobody asks to delete a trade
of the client; a delete of such a trade shows it a trade the tape never holds
(`deleted_fill_breaks_mirror`).
-/

namespace Bourse

variable {ρ σ : Type}

section Subscribed

variable (book : OrderBook ρ) (side : Side) (orders : BookSide)

@[simp] theorem OrderBook.subscribed_setSide :
    (book.setSide side orders).subscribed = book.subscribed := by
  unfold OrderBook.setSide
  split <;> rfl

@[simp] theorem OrderBook.subscribed_record (trade : Trade) :
    (book.record trade).subscribed = book.subscribed := rfl

@[simp] theorem OrderBook.subscribed_fill (key : OrderKey) (filled : Header) :
    (book.fill side false key filled).subscribed = book.subscribed := by
  simp [OrderBook.fill_own]

@[simp] theorem OrderBook.subscribed_placeOrder (now : Instant) (order : MarketEvent) :
    (book.placeOrder now order).subscribed = book.subscribed := by
  simp [OrderBook.placeOrder]

end Subscribed

/-- No move changes the numbers the book gives subscribers. -/
theorem Publication.subscribed {allow : BookRequest → Prop} {before after : OrderBook ρ}
    {event : MarketEvent} (publication : Publication allow before event after) :
    after.subscribed = before.subscribed := by
  cases publication <;> simp

/-- The subscription numbered `number` is on the book once, and every number the book gives
from now on is another. -/
def OrderBook.SubscribedOnce (book : OrderBook ρ) (number : Nat) : Prop :=
  book.subscriptions.countP (·.id == number) = 1 ∧ number ≤ book.subscribed

/-- The subscriber numbered `number` keeps a portfolio, the part `view` of the subscribers'
state, and shows it every event it is delivered; a delivery to another subscriber leaves it
alone. -/
structure Delivery.Feeds (deliver : Delivery ρ σ) (view : σ → Portfolio) (number : Nat) :
    Prop where
  observes : ∀ audience book subscription event, subscription.id = number →
    view (deliver audience book subscription event).1 = ((view audience).observe event).1
  ignores : ∀ audience book subscription event, subscription.id ≠ number →
    view (deliver audience book subscription event).1 = view audience

/-- What a subscriber following a portfolio of `client` sees of a book: through `view`, a
portfolio of the client that mirrors the book, its subscription `number` on the book once. -/
def Portfolio.Follows (view : σ → Portfolio) (client : String) (number : Nat) (audience : σ)
    (book : OrderBook ρ) : Prop :=
  (view audience).clientId = client ∧ (view audience).Mirrors book ∧ book.SubscribedOnce number

namespace Delivery.Feeds

variable {deliver : Delivery ρ σ} {view : σ → Portfolio} {number : Nat}

/-- Delivered to a list of subscribers, an event is shown to the portfolio once for each time
its subscription is on the list. -/
theorem view_afterAll (feeds : deliver.Feeds view number) (audience : σ) (shown : OrderBook ρ)
    (event : MarketEvent) (subscriptions : List (Subscription ρ)) :
    view (deliver.afterAll audience shown event subscriptions) =
      (fun portfolio => (portfolio.observe event).1)^[subscriptions.countP (·.id == number)]
        (view audience) := by
  induction subscriptions generalizing audience with
  | nil => rfl
  | cons subscription rest inductionHypothesis =>
    rw [Delivery.afterAll, List.foldl_cons, ← Delivery.afterAll, inductionHypothesis,
      List.countP_cons]
    by_cases mine : subscription.id = number
    · simp [mine, feeds.observes _ _ _ _ mine, Function.iterate_succ_apply]
    · simp [mine, feeds.ignores _ _ _ _ mine]

/-- Every move the book publishes keeps a portfolio it feeds mirroring the book, when no trade
of its client is deleted. -/
theorem watches (feeds : deliver.Feeds view number) (client : String) :
    deliver.Watches (BookRequest.DeletesNoTradeOf client)
      (Portfolio.Follows view client number) := by
  intro audience before event after shown publication wellFormed sameSubscribers followed
  obtain ⟨named, mirrors, counted, below⟩ := followed
  have once : shown.subscriptions.countP (·.id == number) = 1 := by
    rw [sameSubscribers, publication.subscriptions]
    exact counted
  have observed : view (deliver.afterAll audience shown event shown.subscriptions) =
      ((view audience).observe event).1 := by
    rw [feeds.view_afterAll, once]
    rfl
  rw [← named] at publication
  refine ⟨?_, ?_, ?_, ?_⟩
  · rw [observed, Portfolio.clientId_observe, named]
  · rw [observed]
    exact mirrors.observe wellFormed publication
  · rw [publication.subscriptions]
    exact counted
  · rw [publication.subscribed]
    exact below

end Delivery.Feeds

/-- Subscribing anyone keeps a portfolio following the book, and so does unsubscribing anyone
but the portfolio. -/
theorem BookCall.keeps_follows (view : σ → Portfolio) (client : String) {number : Nat}
    (call : BookCall ρ) (stays : call ≠ .unsubscribe number) :
    call.Keeps (Portfolio.Follows view client number) := by
  cases call with
  | subscribe name role =>
    rintro audience book ⟨named, mirrors, counted, below⟩
    refine ⟨named, ⟨mirrors.bids, mirrors.offers, mirrors.fills⟩, ?_, ?_⟩
    · have fresh : book.subscribed + 1 ≠ number := by omega
      simp [OrderBook.subscribe, List.countP_append, counted, fresh]
    · simp only [OrderBook.subscribe]
      omega
  | unsubscribe other =>
    have kept : other ≠ number := fun same => stays (by rw [same])
    rintro audience book ⟨named, mirrors, counted, below⟩
    refine ⟨named, ⟨mirrors.bids, mirrors.offers, mirrors.fills⟩, ?_, below⟩
    rw [← counted]
    simp only [OrderBook.unsubscribe, List.countP_filter]
    congr 1
    funext subscription
    by_cases mine : subscription.id = number <;> simp [mine, kept.symm]
  | add => trivial
  | delete => trivial

/-- A portfolio of a client that has done nothing mirrors a book that holds nothing of the
client. -/
theorem Portfolio.new_mirrors {client : String} {book : OrderBook ρ}
    (noBids : ∀ orderId, book.bids.find? ⟨client, orderId⟩ = none)
    (noOffers : ∀ orderId, book.offers.find? ⟨client, orderId⟩ = none)
    (noTrades : ∀ trade ∈ book.tape.toList, trade.header.clientId ≠ client) :
    (Portfolio.new client).Mirrors book where
  bids orderId := (noBids orderId).symm
  offers orderId := (noOffers orderId).symm
  fills := by simpa [Portfolio.new, List.filter_eq_nil_iff] using noTrades

section Mirror

variable {deliver : Delivery ρ σ} {view : σ → Portfolio} {client : String} {number : Nat}
  {admits : BookCall ρ → BookRun ρ σ → Prop} {start run : BookRun ρ σ}

/-- A portfolio of a client subscribed when the book held nothing of the client, and never
unsubscribed, mirrors the book after every call, whether the call returned or was stopped:
its open bids and offers are the client's resting bids and offers, and its trades the client's
trades on the tape, in tape order, so its net position is the client's on the tape. This holds
when subscribers are calm, and when nobody, client or subscriber, asks to delete a trade of the
client. -/
theorem BookRun.Called.portfolio_mirrors (calm : deliver.Calm)
    (asks : deliver.Asks (BookRequest.DeletesNoTradeOf client)) (feeds : deliver.Feeds view number)
    (allowed : ∀ call run, admits call run → call.Allowed (BookRequest.DeletesNoTradeOf client))
    (stays : ∀ call run, admits call run → call ≠ .unsubscribe number)
    (calls : Relation.ReflTransGen (BookRun.Called deliver admits) start run)
    (wellFormed : start.book.WellFormed) (subscribed : start.book.SubscribedOnce number)
    (fresh : view start.audience = Portfolio.new client)
    (noBids : ∀ orderId, start.book.bids.find? ⟨client, orderId⟩ = none)
    (noOffers : ∀ orderId, start.book.offers.find? ⟨client, orderId⟩ = none)
    (noTrades : ∀ trade ∈ start.book.tape.toList, trade.header.clientId ≠ client) :
    (view run.audience).Mirrors run.book ∧
      (view run.audience).netPosition = run.book.netPositionOf client := by
  have mirrors : (view start.audience).Mirrors start.book := by
    rw [fresh]
    exact Portfolio.new_mirrors noBids noOffers noTrades
  have named : (view start.audience).clientId = client := by
    rw [fresh]
    rfl
  have follows := BookRun.Called.sees calm asks (feeds.watches client) allowed
    (fun call run admitted => call.keeps_follows view client (stays call run admitted)) calls
    wellFormed ⟨named, mirrors, subscribed⟩
  obtain ⟨-, stillNamed, stillMirrors, -⟩ := follows
  refine ⟨stillMirrors, ?_⟩
  rw [stillMirrors.netPosition_eq, stillNamed]

end Mirror

section Sample

/-- A delivery to portfolios only: subscriber one keeps the portfolio and is shown every event,
and nobody asks the book for anything. -/
def portfolioDelivery : Delivery Unit Portfolio := fun portfolio _ subscription event =>
  (if subscription.id = 1 then (portfolio.observe event).1 else portfolio, Reaction.none)

/-- An empty book of the symbol ACME with the portfolio of client `c` subscribed. -/
def portfolioRun : BookRun Unit Portfolio :=
  ⟨((OrderBook.empty "ACME" .priceTime).subscribe "portfolio" ()).1, Portfolio.new "c", [], #[]⟩

/-- A bid of client `c` for ten. -/
def clientBid : BookCall Unit :=
  .add queueLimit Instant.zero (.bid { Header.empty with
    clientId := "c", clientOrderId := "b1", side := Side.buy, orderQty := 10, remainingQty := 10 })

theorem portfolioDelivery_feeds : portfolioDelivery.Feeds (fun portfolio => portfolio) 1 where
  observes _ _ _ _ mine := by simp [portfolioDelivery, mine]
  ignores _ _ _ _ other := by simp [portfolioDelivery, other]

/-- The portfolio of client `c` mirrors the book after the client's first bid. -/
theorem client_bid_mirrored :
    portfolioDelivery.Calm ∧ portfolioDelivery.Feeds (fun portfolio => portfolio) 1 ∧
      (portfolioRun.after (clientBid.exec portfolioDelivery)).audience.Mirrors
        (portfolioRun.after (clientBid.exec portfolioDelivery)).book ∧
      (portfolioRun.after (clientBid.exec portfolioDelivery)).audience.netPosition =
        (portfolioRun.after (clientBid.exec portfolioDelivery)).book.netPositionOf "c" := by
  have calm : portfolioDelivery.Calm := fun _ _ _ _ _ => nofun
  have calls : Relation.ReflTransGen
      (BookRun.Called portfolioDelivery fun call _ => call = clientBid) portfolioRun
      (portfolioRun.after (clientBid.exec portfolioDelivery)) :=
    .single ⟨clientBid, rfl, rfl⟩
  exact ⟨calm, portfolioDelivery_feeds,
    BookRun.Called.portfolio_mirrors calm (fun _ _ _ _ _ member => nomatch member)
      portfolioDelivery_feeds (by rintro _ _ rfl; trivial) (by rintro _ _ rfl; nofun) calls
      ((OrderBook.WellFormed.empty "ACME" .priceTime).resubscribe _ _) ⟨rfl, le_refl _⟩
      rfl (fun _ => rfl) (fun _ => rfl) (fun _ member => nomatch member)⟩

/-- A delete naming a fill of client `c` for ten; nothing rests under its key. -/
def deletedFill : BookCall Unit :=
  .delete queueLimit Instant.zero (.fill { Header.empty with
      clientId := "c", clientOrderId := "b1", side := Side.buy, orderQty := 10, cumQty := 10 }
    { Execution.empty with execQty := 10, execPrice := Decimal.ofInt 100 })

/-- A delete of a trade of the client that finds nothing is published as it was asked, and the
portfolio takes it for a trade of its client: it then holds a trade while the tape holds none. -/
theorem deleted_fill_breaks_mirror :
    portfolioDelivery.Calm ∧
      (portfolioRun.after (deletedFill.exec portfolioDelivery)).audience.fills.size = 1 ∧
      (portfolioRun.after (deletedFill.exec portfolioDelivery)).book.tape.size = 0 ∧
      ¬(portfolioRun.after (deletedFill.exec portfolioDelivery)).audience.Mirrors
        (portfolioRun.after (deletedFill.exec portfolioDelivery)).book := by
  have fills : (portfolioRun.after (deletedFill.exec portfolioDelivery)).audience.fills.size = 1 :=
    rfl
  have noTape : (portfolioRun.after (deletedFill.exec portfolioDelivery)).book.tape.toList = [] :=
    rfl
  refine ⟨fun _ _ _ _ _ => nofun, fills, congrArg List.length noTape, fun mirrors => ?_⟩
  have sameLength := congrArg List.length mirrors.fills
  rw [noTape, Array.length_toList, fills] at sameLength
  simp at sameLength

end Sample

end Bourse
