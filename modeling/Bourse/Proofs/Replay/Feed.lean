import Bourse.Proofs.Run.Agreement
import Bourse.Proofs.Run.Calm
import Bourse.Proofs.Replay.Credits

/-!
# The credits a subscriber keeps of a book

A replay keeps its match credits in a subscriber of the book: the subscriber in the creditor's
role observes every event it is delivered (`Delivery.KeepsCredits`). As long as it subscribes
once and no trade of the owner's order `orderId` is handed to a delete, the credit it keeps for
that order is exactly the credit it started from having observed the trades the book put on its
tape since (`CreditsFollow`): the book publishes each trade once, right after it tapes it, and
every other event it publishes is no trade of that order, or one that leaves its credit alone.
So after any call on the book, returned or stopped, the order's credit is the old one having
observed the trades the call added to the tape (`BookCall.exec_keeps_credits`).

Subscribers that only listen ask for nothing, so a run of the book performs its one operation
and nothing else; an outside trade is then applied as `AppliedTrade` says, or refused
(`BookM.add_outside`).
-/

open Std.Do

namespace Bourse

variable {ρ σ : Type}

/-- Every subscriber only listens: it asks for nothing and never fails. -/
def Delivery.OnlyListens (deliver : Delivery ρ σ) : Prop :=
  ∀ audience book subscription event, (deliver audience book subscription event).2 = Reaction.none

/-- Where the subscribers' state keeps match credits: the role of the subscriber that earns
them, the credits, and the owner whose trades earn them. -/
structure CreditView (ρ σ : Type) where
  /-- The role of the subscriber that earns credits. -/
  creditor : ρ
  /-- The credits kept. -/
  credits : σ → MatchCredits
  /-- The owner whose trades earn credits. -/
  owner : σ → String

/-- The subscriber in the creditor's role observes every event into the credits for the owner;
every other subscriber leaves credits and owner alone, and nobody changes the owner. -/
structure Delivery.KeepsCredits (deliver : Delivery ρ σ) (view : CreditView ρ σ) : Prop where
  observes : ∀ audience book subscription event, subscription.role = view.creditor →
    view.credits (deliver audience book subscription event).1 =
      (view.credits audience).observe (view.owner audience) event
  ignores : ∀ audience book subscription event, subscription.role ≠ view.creditor →
    view.credits (deliver audience book subscription event).1 = view.credits audience
  keepsOwner : ∀ audience book subscription event,
    view.owner (deliver audience book subscription event).1 = view.owner audience

namespace Delivery.OnlyListens

variable {deliver : Delivery ρ σ}

theorem calm (listens : deliver.OnlyListens) : deliver.Calm := by
  intro audience book subscription event message stopped
  rw [listens audience book subscription event] at stopped
  exact absurd stopped (by simp [Reaction.none])

/-- Subscribers that only listen ask for nothing the book should not allow. -/
theorem asks (listens : deliver.OnlyListens) (allow : BookRequest → Prop) : deliver.Asks allow := by
  intro audience book subscription event request asked
  rw [listens audience book subscription event] at asked
  exact absurd asked (List.not_mem_nil)

end Delivery.OnlyListens

section Follow

variable [DecidableEq ρ] (view : CreditView ρ σ)

/-- The number of subscriptions in the creditor's role. -/
def CreditView.creditors (subscriptions : List (Subscription ρ)) : Nat :=
  subscriptions.countP fun subscription => decide (subscription.role = view.creditor)

@[simp] theorem CreditView.creditors_cons (subscription : Subscription ρ)
    (rest : List (Subscription ρ)) :
    view.creditors (subscription :: rest) =
      view.creditors rest + if subscription.role = view.creditor then 1 else 0 := by
  simp [CreditView.creditors, List.countP_cons]

/-- The request deletes no trade of the client's order `orderId`. -/
def BookRequest.DeletesNoTradeOfOrder (client orderId : String) : BookRequest → Prop
  | .add _ => True
  | .delete event =>
    event.header.clientId = client → event.header.clientOrderId = orderId →
      Trade.ofEvent? event = none

/-- What the credit of order `orderId` says of a book, from the credits `start` and the tape
`tape` on: the owner is `server`, the creditor subscribes once, and the book's tape is `tape`
followed by trades that, observed in order from `start`, give the order's credit. -/
structure CreditsFollow (server orderId : String) (start : MatchCredits) (tape : List Trade)
    (audience : σ) (book : OrderBook ρ) : Prop where
  owned : view.owner audience = server
  once : view.creditors book.subscriptions = 1
  observed : ∃ later, book.tape.toList = tape ++ later ∧
    (view.credits audience).creditOf orderId = (start.observeAll server later).creditOf orderId

namespace Delivery.KeepsCredits

variable {deliver : Delivery ρ σ} {view}

/-- Delivered to a list of subscribers, an event is observed into the credits once for each
creditor on the list; the owner stays. -/
theorem afterAll (keeps : deliver.KeepsCredits view) (audience : σ) (shown : OrderBook ρ)
    (event : MarketEvent) (subscriptions : List (Subscription ρ)) :
    view.owner (deliver.afterAll audience shown event subscriptions) = view.owner audience ∧
      view.credits (deliver.afterAll audience shown event subscriptions) =
        (fun credits => credits.observe (view.owner audience) event)^[view.creditors subscriptions]
          (view.credits audience) := by
  induction subscriptions generalizing audience with
  | nil => exact ⟨rfl, rfl⟩
  | cons subscription rest inductionHypothesis =>
    rw [Delivery.afterAll, List.foldl_cons, ← Delivery.afterAll]
    obtain ⟨owned, credited⟩ := inductionHypothesis (deliver audience shown subscription event).1
    rw [keeps.keepsOwner] at owned credited
    refine ⟨owned, ?_⟩
    rw [credited, view.creditors_cons]
    by_cases earning : subscription.role = view.creditor
    · simp [earning, keeps.observes _ _ _ _ earning, Function.iterate_succ_apply]
    · simp [earning, keeps.ignores _ _ _ _ earning]

/-- An event published to a book whose creditor subscribes once is observed into the credits
once. -/
theorem observed_once (keeps : deliver.KeepsCredits view) {audience : σ} {shown : OrderBook ρ}
    (event : MarketEvent) (once : view.creditors shown.subscriptions = 1) :
    view.owner (deliver.afterAll audience shown event shown.subscriptions) = view.owner audience ∧
      view.credits (deliver.afterAll audience shown event shown.subscriptions) =
        (view.credits audience).observe (view.owner audience) event := by
  obtain ⟨owned, credited⟩ := keeps.afterAll audience shown event shown.subscriptions
  rw [once] at credited
  exact ⟨owned, credited⟩

/-- Every move the book publishes keeps the credit of order `orderId` following the book, when
no trade of the owner's order is handed to a delete: a trade is taped and observed; every other
event published is no trade of that order, and the tape stays. -/
theorem watches (keeps : deliver.KeepsCredits view) (server orderId : String)
    (start : MatchCredits) (tape : List Trade) :
    deliver.Watches (BookRequest.DeletesNoTradeOfOrder server orderId)
      (CreditsFollow view server orderId start tape) := by
  intro audience before event after shown publication wellFormed sameSubscribers follows
  obtain ⟨owned, once, later, taped, credited⟩ := follows
  have shownOnce : view.creditors shown.subscriptions = 1 := by
    rw [sameSubscribers, publication.subscriptions]
    exact once
  obtain ⟨stillOwned, observedOnce⟩ := keeps.observed_once event shownOnce
  rw [owned] at stillOwned observedOnce
  refine ⟨stillOwned, by rw [publication.subscriptions]; exact once, ?_⟩
  rw [observedOnce]
  cases publication with
  | placed allowed order fresh =>
    -- A new order is no trade, and placing it leaves the tape.
    refine ⟨later, by simpa [OrderBook.placeOrder] using taped, ?_⟩
    rw [MatchCredits.observe_of_order _ _ (MarketEvent.ofEvent?_withHeader order _), credited]
  | @traded qty price order trade fillable balanced reports =>
    -- The trade is taped and then observed.
    refine ⟨later ++ [trade], by simp [taped], ?_⟩
    have appended : start.observeAll server (later ++ [trade]) =
        (start.observeAll server later).observe server trade.toEvent := by
      rw [MatchCredits.observeAll_append]
      rfl
    rw [appended, MatchCredits.creditOf_observe, MatchCredits.creditOf_observe, credited]
  | @taken event removed found =>
    -- The order deleted rested on the book, so it is no trade.
    have resting : Trade.ofEvent? removed = none :=
      (wellFormed.sideOf event.header.side).ofEvent?_of_mem
        ((wellFormed.sideOf event.header.side).mem_of_find? found)
    refine ⟨later, by simpa using taped, ?_⟩
    rw [MarketEvent.mapHeader,
      MatchCredits.observe_of_order _ _ (MarketEvent.ofEvent?_withHeader resting _), credited]
  | @missed event allowed missing =>
    -- What is handed to a delete is published as it came, with its header: no trade of the
    -- owner's order, since the request deletes none.
    refine ⟨later, taped, ?_⟩
    have spares : ∀ trade, Trade.ofEvent? (event.mapHeader fun rh =>
        { rh with action := Action.delete }) = some trade →
        trade.header.clientId = server → trade.header.clientOrderId ≠ orderId := by
      intro trade reported mine named
      have shown := Trade.header_of_ofEvent? reported
      simp only [MarketEvent.mapHeader, MarketEvent.header_withHeader] at shown
      rw [shown] at mine named
      rw [MarketEvent.mapHeader, MarketEvent.ofEvent?_withHeader (allowed mine named)] at reported
      cases reported
    rw [MatchCredits.creditOf_observe_of_spares _ _ spares, credited]

end Delivery.KeepsCredits

variable {deliver : Delivery ρ σ} {view}

/-- A call that adds or deletes, on a well-formed book whose creditor subscribes once, leaves a
well-formed book whose tape has grown by the trades that, observed, give the credit of order
`orderId`, whether it returned or was stopped, when no trade of the owner's order is handed to
a delete. -/
theorem BookCall.exec_keeps_credits (listens : deliver.OnlyListens)
    (keeps : deliver.KeepsCredits view) {server orderId : String} {call : BookCall ρ}
    {run : BookRun ρ σ}
    (operation : call.Keeps (CreditsFollow view server orderId (view.credits run.audience)
      run.book.tape.toList))
    (allowed : call.Allowed (BookRequest.DeletesNoTradeOfOrder server orderId))
    (wellFormed : run.book.WellFormed) (owned : view.owner run.audience = server)
    (once : view.creditors run.book.subscriptions = 1) :
    (run.after (call.exec deliver)).book.WellFormed ∧
      CreditsFollow view server orderId (view.credits run.audience) run.book.tape.toList
        (run.after (call.exec deliver)).audience (run.after (call.exec deliver)).book := by
  have ends := call.exec_calm listens.calm (listens.asks _)
    (keeps.watches server orderId (view.credits run.audience) run.book.tape.toList) run
    wellFormed allowed operation ⟨owned, once, [], by simp, by simp [MatchCredits.observeAll]⟩
  unfold BookRun.after
  generalize EStateM.run (call.exec deliver) run = result at ends ⊢
  cases result <;> exact ⟨ends.1, ends.2.1⟩

end Follow

/-- What is left of the order under `key` on the side of `side`: nothing when no order rests
there. -/
def OrderBook.remainingOf (book : OrderBook ρ) (side : Side) (key : OrderKey) : Int64 :=
  match (book.sideOf side).find? key with
  | some order => order.header.remainingQty
  | none => 0

/-- A partial fill of a positive quantity takes no more than that quantity off its order. -/
theorem Trade.appliedQty_le (trade : Trade) (remaining : Int64) (partialFill : trade.complete = false)
    (positive : 0 < trade.execution.execQty) :
    trade.appliedQty remaining ≤ trade.execution.execQty := by
  simp only [Trade.appliedQty, partialFill, Bool.false_eq_true, if_false]
  split
  · exact Int64.le_refl _
  · rename_i outside
    have beyond : ¬trade.execution.execQty ≤ remaining := fun within => outside ⟨positive, within⟩
    exact Int64.le_of_lt (Int64.not_le.mp beyond)

/-- A side that a trade shows its order on holds what the trade says is left of it. -/
theorem Trade.Shows.remaining {trade : Trade} {order : MarketEvent} {after : BookSide}
    (shows : trade.Shows order after) :
    (match after.find? order.key with
      | some rest => rest.header.remainingQty
      | none => 0) = trade.header.remainingQty := by
  by_cases gone : trade.header.remainingQty = 0
  · rw [shows.rests, if_pos gone, gone]
  · rw [shows.rests, if_neg gone]
    simp only [MarketEvent.header_withHeader]
    exact shows.reports.remainingQty.symm

/-- A positive partial fill applied to a book takes something off its order, and no more than
its own quantity; a book it leaves alone keeps the order as it was. -/
theorem AppliedTrade.remaining_within {trade : Trade} {book after : OrderBook ρ}
    (applied : AppliedTrade trade book after) (wellFormed : book.WellFormed)
    (partialFill : trade.complete = false)
    (positive : 0 < trade.execution.execQty) :
    (after.remainingOf trade.header.side trade.header.key).toInt ≤
        (book.remainingOf trade.header.side trade.header.key).toInt ∧
      (book.remainingOf trade.header.side trade.header.key).toInt -
          (after.remainingOf trade.header.side trade.header.key).toInt ≤
        trade.execution.execQty.toInt := by
  cases applied with
  | @applied _ resting appliedTrade found taped kind qty price shown =>
    have sameKey : resting.key = trade.header.key :=
      (wellFormed.sideOf trade.header.side).key_of_find? found
    have before : book.remainingOf trade.header.side trade.header.key =
        resting.header.remainingQty := by
      simp [OrderBook.remainingOf, found]
    have left : after.remainingOf trade.header.side trade.header.key =
        appliedTrade.header.remainingQty := by
      rw [← shown.remaining, sameKey]
      rfl
    have taken := Int64.lt_iff_toInt_lt.mp shown.positive
    have atMost := Int64.le_iff_toInt_le.mp
      (trade.appliedQty_le resting.header.remainingQty partialFill positive)
    rw [← qty] at atMost
    rw [before, left, shown.deducted]
    simp only [Int64.toInt_zero] at taken
    omega
  | untouched nothingLeft =>
    have nonneg := Int64.le_iff_toInt_le.mp (Int64.le_of_lt positive)
    simp only [Int64.toInt_zero] at nonneg
    omega

namespace BookM

variable {deliver : Delivery ρ σ}

/-- A queue with nothing waiting is run at once. -/
theorem drain_of_empty (now : Instant) (budget : Nat) (run : BookRun ρ σ)
    (empty : run.pending = []) : EStateM.run (drain deliver now budget) run = .ok () run := by
  cases budget with
  | zero => rfl
  | succ budget => simp [drain, empty]

/-- With subscribers that only listen, a run of the book performs its one operation and
nothing else: the book it leaves is the one that operation leaves. -/
theorem run_performs_once (listens : deliver.OnlyListens) (budget : Nat) (now : Instant)
    (first : BookRequest) (run : BookRun ρ σ) (wellFormed : run.book.WellFormed)
    (admits : run.book.Admits first) :
    (run.after (BookM.run deliver budget now first)).book =
      ({ run with pending := [] }.after (perform deliver now first)).book := by
  -- Nothing is allowed, so nothing is queued behind the operation.
  have performed := perform_ends (listens.asks fun _ => False) now first { run with pending := [] }
    wellFormed admits fun _ member => absurd member List.not_mem_nil
  unfold BookRun.after BookM.run
  rw [drain]
  simp only [book, note, EStateM.run_bind, EStateM.run_modify, EStateM.run_get,
    EStateM.run_pure]
  generalize EStateM.run (perform deliver now first) { run with pending := [] } = result
    at performed ⊢
  cases result with
  | ok _ after =>
    have emptied : after.pending = [] :=
      List.eq_nil_iff_forall_not_mem.mpr fun request member => (performed.2 request member).2
    simp [drain_of_empty now _ after emptied]
  | error _ after => rfl

/-- With subscribers that only listen, an outside trade offered to a well-formed book is
refused, leaving the book, or applied as `AppliedTrade` says, whether the call returns or is
stopped. -/
theorem add_outside (listens : deliver.OnlyListens) (budget : Nat) (now : Instant)
    {event : MarketEvent} {trade : Trade} (outside : Trade.ofEvent? event = some trade)
    (run : BookRun ρ σ) (wellFormed : run.book.WellFormed) :
    (run.after (BookM.add deliver budget now event)).book = run.book ∨
      AppliedTrade trade run.book (run.after (BookM.add deliver budget now event)).book := by
  have notOrder : event.isOrder = false := by
    cases event <;> simp_all [Trade.ofEvent?, MarketEvent.isOrder]
  cases checked : run.book.check event with
  | error refusal =>
    left
    simp [BookRun.after, BookM.add, book, checked]
  | ok =>
    right
    have admitted : run.book.check event = .ok () := checked
    have applied : Ends (fun _ after => AppliedTrade trade run.book after.book)
        (EStateM.run (applyTrade deliver now trade) { run with pending := [] }) := by
      apply EStateM.of_wp_run_eq rfl
      intro _
      exact applyTrade_agrees (listens.asks fun _ => False) now trade run.book wellFormed
        { run with pending := [] } ⟨rfl, fun _ member => absurd member List.not_mem_nil⟩
    have ran := run_performs_once listens budget now (.add event) run wellFormed
      (OrderBook.admits_add admitted)
    have sameBook : (run.after (BookM.add deliver budget now event)).book =
        (run.after (BookM.run deliver budget now (.add event))).book := by
      simp only [BookRun.after, BookM.add, book, EStateM.run_bind, EStateM.run_get,
        EStateM.run_pure, admitted, notOrder, Bool.false_and, Bool.false_eq_true, ↓reduceIte]
      generalize EStateM.run (BookM.run deliver budget now (.add event)) run = result
      cases result <;> rfl
    rw [sameBook, ran]
    simp only [perform, outside, BookRun.after]
    generalize EStateM.run (applyTrade deliver now trade) { run with pending := [] } = result
      at applied ⊢
    cases result <;> exact applied

end BookM

end Bourse
