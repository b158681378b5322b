import Bourse.Proofs.Run.Specs

/-!
# Invariants of reachable runs

The specifications of the book's computations, read off the results of running them: a run of
the queue is a run of `Drains` with the history `drainHistory` records (`drain_ends`), and a call
either starts such a run or changes only the subscribers (`BookCall.exec_ends`). From there, an
invariant of books and histories that every operation keeps, and that does not depend on the
subscribers, holds on every run a book reaches (`Reachable.invariant`); one that only finished
operations keep holds on every run reached through calls that return
(`Reachable.invariant_of_returns`).
-/

open Std.Do

namespace Bourse

variable {ρ σ : Type}

/-- How a computation on a book ends: in the run it returned with (`true`), or in the run a
subscriber stopped it in (`false`). -/
def BookM.Ends {α : Type} (property : Bool → BookRun ρ σ → Prop) :
    EStateM.Result String (BookRun ρ σ) α → Prop
  | .ok _ after => property true after
  | .error _ after => property false after

/-- The operation a call queues lets `allow` through. -/
def BookCall.Allowed (allow : BookRequest → Prop) : BookCall ρ → Prop
  | .add _ _ event => allow (.add event)
  | .delete _ _ event => allow (.delete event)
  | _ => True

/-- An empty side is well formed. -/
theorem BookSide.WellFormed.empty (buying : Bool) : (BookSide.empty buying).WellFormed where
  ranked := by simp [BookSide.Ranked, BookSide.empty]
  keysUnique := by simp [BookSide.empty]
  fits := by simp [BookSide.empty]
  balanced := by simp [BookSide.empty]
  indexed := fun _ => rfl

/-- The empty book is well formed. -/
theorem OrderBook.WellFormed.empty (symbol : String) (strategy : ExecutionStrategy) :
    (OrderBook.empty symbol strategy : OrderBook ρ).WellFormed :=
  ⟨rfl, rfl, .empty true, .empty false⟩

/-- Changing the subscribers keeps a book well formed. -/
theorem OrderBook.WellFormed.resubscribe {book : OrderBook ρ} (wellFormed : book.WellFormed)
    (subscriptions : List (Subscription ρ)) (subscribed : Nat) :
    ({ book with subscriptions, subscribed } : OrderBook ρ).WellFormed :=
  ⟨wellFormed.bidsBuying, wellFormed.offersSelling, wellFormed.bids, wellFormed.offers⟩

namespace BookM

/-- Ending in a run with `property` is kept when `property` is weakened. -/
theorem Ends.mono {α : Type} {property weaker : Bool → BookRun ρ σ → Prop}
    {result : EStateM.Result String (BookRun ρ σ) α}
    (ends : Ends property result) (weakens : ∀ finished after, property finished after →
      weaker finished after) : Ends weaker result := by
  cases result with
  | ok _ after => exact weakens true after ends
  | error _ after => exact weakens false after ends

/-- Dropping the value a computation returns changes nothing about how it ends. -/
@[simp] theorem ends_map {α β : Type} (change : α → β) (property : Bool → BookRun ρ σ → Prop)
    (result : EStateM.Result String (BookRun ρ σ) α) :
    Ends property (result.map change) ↔ Ends property result := by
  cases result <;> rfl

variable {deliver : Delivery ρ σ} {allow : BookRequest → Prop}

/-- One operation of the queue, read off its result. -/
theorem perform_ends (asks : deliver.Asks allow) (now : Instant) (request : BookRequest)
    (run : BookRun ρ σ) (wellFormed : run.book.WellFormed) (admits : run.book.Admits request)
    (admitted : run.book.AdmitsAll allow run.pending) :
    Ends (fun finished after => Performs now request run.book after.book finished ∧
        run.book.AdmitsAll allow after.pending)
      (EStateM.run (perform deliver now request) run) := by
  apply EStateM.of_wp_run_eq rfl
  intro _
  exact perform_spec asks now request run.book run ⟨rfl, wellFormed, admits, admitted⟩

/-- Running the queue from a well-formed book that admits every waiting request is a run of
`Drains`, and its history is the one `drainHistory` records. -/
theorem drain_ends (asks : deliver.Asks allow) (now : Instant) (budget : Nat) :
    ∀ (run : BookRun ρ σ) (history : List Placement), run.book.WellFormed →
      run.book.AdmitsAll allow run.pending →
      Ends (fun finished after => Drains allow now run.book history after.book
          (drainHistory deliver now budget run history) finished)
        (EStateM.run (drain deliver now budget) run) := by
  induction budget with
  | zero =>
    intro run history _ _
    exact Drains.done
  | succ budget inductionHypothesis =>
    intro run history wellFormed admitted
    cases queue : run.pending with
    | nil =>
      -- Nothing waits: the run ends at once.
      have returns : EStateM.run (drain deliver now (budget + 1)) run = .ok () run := by
        simp [drain, queue]
      rw [returns]
      simp only [Ends, drainHistory, queue]
      exact Drains.done
    | cons request rest =>
      rw [queue] at admitted
      obtain ⟨⟨admits, allowed⟩, restAdmitted⟩ := admitted.pop
      have performed := perform_ends asks now request { run with pending := rest } wellFormed
        admits restAdmitted
      simp only [drain, drainHistory, queue, EStateM.run_bind, EStateM.run_get, EStateM.run_modify]
      generalize EStateM.run (perform deliver now request) { run with pending := rest } = result
        at performed ⊢
      cases result with
      | ok _ after =>
        -- The operation returned: the rest of the queue runs on from the book it left.
        obtain ⟨performs, afterAdmitted⟩ := performed
        have continues := inductionHypothesis after (placeAfter now run.book request history)
          (performs.wellFormed wellFormed admits)
          (afterAdmitted.of_symbol performs.symbol_strategy.1)
        dsimp only
        generalize EStateM.run (drain deliver now budget) after = final at continues ⊢
        cases final <;> exact Drains.step admits allowed performs continues
      | error _ after =>
        -- A subscriber stopped the operation, and with it the run.
        exact Drains.stopped admits allowed performed.1

/-- One run of the book: the queue starts with one operation, which the book admits and `allow`
lets through, and runs; the book's report changes nothing. -/
theorem run_ends (asks : deliver.Asks allow) (budget : Nat) (now : Instant) (first : BookRequest)
    (run : BookRun ρ σ) (history : List Placement) (wellFormed : run.book.WellFormed)
    (admits : run.book.Admits first) (allowed : allow first) :
    Ends (fun finished after => Drains allow now run.book history after.book
        (drainHistory deliver now (budget + 1) { run with pending := [first] } history) finished)
      (EStateM.run (BookM.run deliver budget now first) run) := by
  have drained := drain_ends asks now (budget + 1) { run with pending := [first] } history
    wellFormed (fun request member => by
      rw [List.mem_singleton.mp member]
      exact ⟨admits, allowed⟩)
  simp only [BookM.run, book, note, EStateM.run_bind, EStateM.run_modify, EStateM.run_get,
    EStateM.run_pure]
  generalize EStateM.run (drain deliver now (budget + 1)) { run with pending := [first] } = result
    at drained ⊢
  cases result <;> exact drained

end BookM

/-- What a call does to a book and its history: a run of the queue that the call started, or a
change of subscribers only. The flag says whether the call returned. -/
inductive CallMoves (allow : BookRequest → Prop) :
    OrderBook ρ → List Placement → OrderBook ρ → List Placement → Bool → Prop
  | drains (now : Instant) {book after : OrderBook ρ} {history history' : List Placement}
      {finished : Bool} (drains : Drains allow now book history after history' finished) :
      CallMoves allow book history after history' finished
  | resubscribes {book : OrderBook ρ} {history : List Placement}
      (subscriptions : List (Subscription ρ)) (subscribed : Nat) :
      CallMoves allow book history { book with subscriptions, subscribed } history true

variable {deliver : Delivery ρ σ} {allow : BookRequest → Prop}

/-- A call on a well-formed book, whose operation `allow` lets through, moves the book and its
history as `CallMoves` says. -/
theorem BookCall.exec_ends (asks : deliver.Asks allow) (call : BookCall ρ) (run : BookRun ρ σ)
    (history : List Placement) (wellFormed : run.book.WellFormed) (allowed : call.Allowed allow) :
    BookM.Ends (fun finished after => CallMoves allow run.book history after.book
        (call.history deliver run history) finished)
      (EStateM.run (call.exec deliver) run) := by
  cases call with
  | add budget now event =>
    cases checked : run.book.check event with
    | error refusal =>
      -- The book refuses the event: nothing happens.
      simp [BookCall.exec, BookM.add, BookM.book, checked, BookCall.history]
      exact .drains now .done
    | ok =>
      by_cases duplicate : event.isOrder = true ∧
          (run.book.sideOf event.header.side).contains event.key = true
      · -- An order whose key already rests: nothing happens.
        simp [BookCall.exec, BookM.add, BookM.book, checked, BookCall.history, duplicate]
        exact .drains now .done
      · -- Otherwise the event starts a run of the queue.
        have ran := BookM.run_ends asks budget now (.add event) run history wellFormed
          (OrderBook.admits_add checked) allowed
        simp [BookCall.exec, BookM.add, BookM.book, checked, BookCall.history, duplicate]
        exact ran.mono fun _ _ => .drains now
  | delete budget now event =>
    have ran := BookM.run_ends asks budget now (.delete event) run history wellFormed
      (run.book.admits_delete event) allowed
    simp [BookCall.exec, BookM.delete, BookM.book, BookCall.history]
    exact ran.mono fun _ _ => .drains now
  | subscribe name role =>
    simp [BookCall.exec, BookM.modifyBook, BookCall.history]
    exact .resubscribes _ _
  | unsubscribe id =>
    simp [BookCall.exec, BookM.modifyBook, BookCall.history]
    exact .resubscribes _ _

section Invariant

variable {Invariant : OrderBook ρ → List Placement → Prop}

/-- A change of subscribers keeps `Invariant`. -/
def KeptByResubscribing (Invariant : OrderBook ρ → List Placement → Prop) : Prop :=
  ∀ (book : OrderBook ρ) (history : List Placement) (subscriptions : List (Subscription ρ))
    (subscribed : Nat), book.WellFormed → Invariant book history →
    Invariant { book with subscriptions, subscribed } history

/-- An invariant that every admitted operation keeps, and a change of subscribers too, holds
after every call. -/
theorem CallMoves.invariant {book after : OrderBook ρ} {history history' : List Placement}
    {finished : Bool}
    (keeps : ∀ {now : Instant} {request : BookRequest} {book after : OrderBook ρ}
      {history : List Placement} {finished : Bool}, book.Admits request → allow request →
      book.WellFormed → Invariant book history → Performs now request book after finished →
      Invariant after (placeAfter now book request history))
    (resubscribing : KeptByResubscribing Invariant)
    (moves : CallMoves allow book history after history' finished)
    (wellFormed : book.WellFormed) (holds : Invariant book history) :
    after.WellFormed ∧ Invariant after history' := by
  cases moves with
  | drains now drains => exact drains.invariant keeps wellFormed holds
  | resubscribes subscriptions subscribed =>
    exact ⟨wellFormed.resubscribe subscriptions subscribed,
      resubscribing book history subscriptions subscribed wellFormed holds⟩

/-- An invariant that every admitted operation run to its end keeps, and a change of
subscribers too, holds after every call that returned. -/
theorem CallMoves.invariant_of_finished {book after : OrderBook ρ}
    {history history' : List Placement}
    (keeps : ∀ {now : Instant} {request : BookRequest} {book after : OrderBook ρ}
      {history : List Placement}, book.Admits request → allow request → book.WellFormed →
      Invariant book history → Performs now request book after true →
      Invariant after (placeAfter now book request history))
    (resubscribing : KeptByResubscribing Invariant)
    (moves : CallMoves allow book history after history' true)
    (wellFormed : book.WellFormed) (holds : Invariant book history) :
    after.WellFormed ∧ Invariant after history' := by
  cases moves with
  | drains now drains => exact drains.invariant_of_finished keeps wellFormed holds
  | resubscribes subscriptions subscribed =>
    exact ⟨wellFormed.resubscribe subscriptions subscribed,
      resubscribing book history subscriptions subscribed wellFormed holds⟩

variable {symbol : String} {strategy : ExecutionStrategy}
  {admits : BookCall ρ → BookRun ρ σ → Prop} {run : BookRun ρ σ} {history : List Placement}

variable (Invariant) in
/-- An invariant of books and histories that holds of the empty book, and that every admitted
operation and every change of subscribers keeps, holds on every run a book reaches through calls
whose operations `allow` lets through, and the book stays well formed. -/
theorem Reachable.invariant (asks : deliver.Asks allow)
    (allowed : ∀ call run, admits call run → call.Allowed allow)
    (initial : Invariant (OrderBook.empty symbol strategy) [])
    (keeps : ∀ {now : Instant} {request : BookRequest} {book after : OrderBook ρ}
      {history : List Placement} {finished : Bool}, book.Admits request → allow request →
      book.WellFormed → Invariant book history → Performs now request book after finished →
      Invariant after (placeAfter now book request history))
    (resubscribing : KeptByResubscribing Invariant)
    (reached : Reachable deliver symbol strategy admits run history) :
    run.book.WellFormed ∧ Invariant run.book history := by
  induction reached with
  | start => exact ⟨.empty symbol strategy, initial⟩
  | @call run history call _ admitted inductionHypothesis =>
    have ends := call.exec_ends asks run history inductionHypothesis.1
      (allowed call run admitted)
    -- Whether the call returned or a subscriber stopped it, the book moved as a call does.
    unfold BookRun.after
    generalize EStateM.run (call.exec deliver) run = result at ends ⊢
    cases result <;>
      exact ends.invariant keeps resubscribing inductionHypothesis.1 inductionHypothesis.2

variable (Invariant) in
/-- An invariant that holds of the empty book, and that every admitted operation run to its end
and every change of subscribers keeps, holds on every run a book reaches through calls that
return and whose operations `allow` lets through. -/
theorem Reachable.invariant_of_returns (asks : deliver.Asks allow)
    (allowed : ∀ call run, admits call run → call.Allowed allow)
    (returns : ∀ call run, admits call run → call.Returns deliver run)
    (initial : Invariant (OrderBook.empty symbol strategy) [])
    (keeps : ∀ {now : Instant} {request : BookRequest} {book after : OrderBook ρ}
      {history : List Placement}, book.Admits request → allow request → book.WellFormed →
      Invariant book history → Performs now request book after true →
      Invariant after (placeAfter now book request history))
    (resubscribing : KeptByResubscribing Invariant)
    (reached : Reachable deliver symbol strategy admits run history) :
    run.book.WellFormed ∧ Invariant run.book history := by
  induction reached with
  | start => exact ⟨.empty symbol strategy, initial⟩
  | @call run history call _ admitted inductionHypothesis =>
    have ends := call.exec_ends asks run history inductionHypothesis.1
      (allowed call run admitted)
    -- The call returned, so the run of the queue it started finished.
    obtain ⟨after, returned⟩ := returns call run admitted
    unfold BookRun.after
    rw [returned] at ends ⊢
    exact CallMoves.invariant_of_finished keeps resubscribing ends inductionHypothesis.1
      inductionHypothesis.2

end Invariant

section Sample

/-! A sample run: an empty book whose subscribers keep no state and ask for nothing, and a
first call that offers it a bid for ten. -/

/-- Subscribers that keep no state and ask for nothing. -/
def quietDelivery : Delivery Unit Unit := fun audience _ _ _ => (audience, Reaction.none)

/-- An empty book of the symbol ACME, with nothing waiting. -/
def quietRun : BookRun Unit Unit := ⟨OrderBook.empty "ACME" .priceTime, (), [], #[]⟩

/-- A bid for ten, offered at the start of time with the program's budget. -/
def firstBid : BookCall Unit :=
  .add queueLimit Instant.zero
    (.bid { Header.empty with side := Side.buy, orderQty := 10, remainingQty := 10 })

end Sample

end Bourse
