import Bourse.Proofs.Book.Matching

/-!
# Placements and runs of the queue

Two facts about a resting order depend on when it arrived: among orders of equal priority it
stands behind every order that arrived before it, and its trades since it arrived are the tape
from that moment on. A `Placement` records an order as it went on the book, with the number of
orders placed before it and the length of the tape at that moment; the history of a book is the
list of its placements, newest first. `placementOf` is the placement an operation makes: an
order goes on exactly when its key does not rest on its side. A key may come back once its
order has left, so the order resting under a key goes back to the newest placement of that key
on its side (`latestPlacement`).

`Drains` is what running the queue does to a book and its history: the operations run one after
another, each one admitted by the book, each running to its end except perhaps the last, which a
subscriber may cut short. An invariant of books and histories that every admitted operation
keeps holds after every run of the queue (`Drains.invariant`); one that only finished operations
keep holds after every run that finished (`Drains.invariant_of_finished`).
-/

namespace Bourse

/-- An order as it went on the book. -/
structure Placement where
  /-- Its header as placed, stamped. -/
  header : Header
  /-- How many orders were placed before it. -/
  serial : Nat
  /-- How many trades the tape held when it was placed. -/
  tapeMark : Nat

variable {ρ : Type}

/-- Whether a placement put an order with `key` on the side that buys when `buying`. -/
def Placement.places (buying : Bool) (key : OrderKey) (placement : Placement) : Bool :=
  placement.header.side.isBuy == buying && placement.header.key == key

/-- The latest placement of an order with `key` on the side that buys when `buying`: the
placement of the order resting there, if one does. -/
def latestPlacement (history : List Placement) (buying : Bool) (key : OrderKey) :
    Option Placement :=
  history.find? (Placement.places buying key)

section Latest

variable {history : List Placement} {buying : Bool} {key : OrderKey} {placement : Placement}

theorem latestPlacement_cons_of_places (places : placement.places buying key = true) :
    latestPlacement (placement :: history) buying key = some placement := by
  simp [latestPlacement, places]

theorem latestPlacement_cons_of_not_places (elsewhere : placement.places buying key = false) :
    latestPlacement (placement :: history) buying key = latestPlacement history buying key := by
  simp [latestPlacement, elsewhere]

theorem mem_of_latestPlacement {latest : Placement}
    (found : latestPlacement history buying key = some latest) : latest ∈ history :=
  List.mem_of_find?_eq_some found

end Latest

/-- The placement an operation makes when it runs on a book: an order whose key does not rest on
its side goes on, stamped with the time of the run. -/
def placementOf (now : Instant) (book : OrderBook ρ) (serial : Nat) :
    BookRequest → Option Placement
  | .add event =>
    if (Trade.ofEvent? event).isNone && !(book.sideOf event.header.side).contains event.key then
      some ⟨OrderBook.stamp now event.header, serial, book.tape.size⟩
    else none
  | .delete _ => none

/-- The history after an operation: its placement, if it makes one, before the others. -/
def placeAfter (now : Instant) (book : OrderBook ρ) (request : BookRequest)
    (history : List Placement) : List Placement :=
  (placementOf now book history.length request).toList ++ history

section Performs

variable {now : Instant} {request : BookRequest} {book after : OrderBook ρ} {finished : Bool}

/-- A placed order is recorded with its stamped header, its serial and the tape's length. -/
theorem placementOf_order {event : MarketEvent} (order : Trade.ofEvent? event = none)
    (fresh : (book.sideOf event.header.side).contains event.key = false) (serial : Nat) :
    placementOf now book serial (.add event) =
      some ⟨OrderBook.stamp now event.header, serial, book.tape.size⟩ := by
  simp [placementOf, order, fresh]

/-- An operation that places nothing leaves the history as it was. -/
theorem placementOf_eq_none
    (placesNothing : ∀ event, request = .add event → Trade.ofEvent? event = none →
      (book.sideOf event.header.side).contains event.key = true) (serial : Nat) :
    placementOf now book serial request = none := by
  cases request with
  | add event =>
    unfold placementOf
    cases trade : Trade.ofEvent? event with
    | none => simp [placesNothing event rfl trade]
    | some _ => simp [trade]
  | delete event => rfl

/-- Only a placement adds to the history: a trade from outside, a delete and an operation that
changes nothing add nothing. -/
theorem placeAfter_eq_self
    (placesNothing : ∀ event, request = .add event → Trade.ofEvent? event = none →
      (book.sideOf event.header.side).contains event.key = true) (history : List Placement) :
    placeAfter now book request history = history := by
  simp [placeAfter, placementOf_eq_none placesNothing]

/-- The history after placing an order: its placement, stamped, before the others. -/
theorem placeAfter_order {event : MarketEvent} (order : Trade.ofEvent? event = none)
    (fresh : (book.sideOf event.header.side).contains event.key = false)
    (history : List Placement) :
    placeAfter now book (.add event) history =
      ⟨OrderBook.stamp now event.header, history.length, book.tape.size⟩ :: history := by
  simp [placeAfter, placementOf_order order fresh]

/-- Rounds of matching keep the symbol and the strategy. -/
theorem MatchRound.symbol_strategy_of_rounds {side : Side} {key : OrderKey}
    (rounds : Relation.ReflTransGen (MatchRound side key now) book after) :
    after.symbol = book.symbol ∧ after.strategy = book.strategy := by
  induction rounds with
  | refl => exact ⟨rfl, rfl⟩
  | tail _ round inductionHypothesis =>
    cases round
    simpa [OrderBook.afterRound] using inductionHypothesis

/-- No operation changes the symbol or the strategy of the book. -/
theorem Performs.symbol_strategy (performs : Performs now request book after finished) :
    after.symbol = book.symbol ∧ after.strategy = book.strategy := by
  cases performs with
  | placed order fresh matched settled =>
    simpa [OrderBook.placeOrder] using MatchRound.symbol_strategy_of_rounds matched
  | settled outside found positive within => simp
  | taken found => simp
  | unchanged placesNothing => exact ⟨rfl, rfl⟩

end Performs

/-- The book's check reads nothing but its symbol. -/
theorem OrderBook.admits_of_symbol {book other : OrderBook ρ} (same : other.symbol = book.symbol)
    {request : BookRequest} (admits : book.Admits request) : other.Admits request := by
  intro event isAdd
  have checked := admits event isAdd
  unfold OrderBook.check at checked ⊢
  rw [same]
  exact checked

/-- What running the queue does to a book and its history. The operations run one after
another, each one the book admits and `allow` lets through; every one runs to its end but
perhaps the last, which a subscriber stopped. The flag says whether the run finished. -/
inductive Drains (allow : BookRequest → Prop) (now : Instant) :
    OrderBook ρ → List Placement → OrderBook ρ → List Placement → Bool → Prop
  | done {book : OrderBook ρ} {history : List Placement} :
      Drains allow now book history book history true
  | stopped {book after : OrderBook ρ} {history : List Placement} {request : BookRequest}
      (admits : book.Admits request) (allowed : allow request)
      (performs : Performs now request book after false) :
      Drains allow now book history after (placeAfter now book request history) false
  | step {book next final : OrderBook ρ} {history history' : List Placement}
      {request : BookRequest} {finished : Bool}
      (admits : book.Admits request) (allowed : allow request)
      (performs : Performs now request book next true)
      (rest : Drains allow now next (placeAfter now book request history) final history' finished) :
      Drains allow now book history final history' finished

namespace Drains

variable {allow : BookRequest → Prop} {now : Instant}
  {book final : OrderBook ρ} {history history' : List Placement} {finished : Bool}

/-- An invariant of a well-formed book and its history that every admitted operation keeps,
finished or not, holds after a run of the queue, and the book stays well formed. -/
theorem invariant {Invariant : OrderBook ρ → List Placement → Prop}
    (keeps : ∀ {request : BookRequest} {book after : OrderBook ρ} {history : List Placement}
      {finished : Bool}, book.Admits request → allow request → book.WellFormed →
      Invariant book history → Performs now request book after finished →
      Invariant after (placeAfter now book request history))
    (drains : Drains allow now book history final history' finished)
    (wellFormed : book.WellFormed) (holds : Invariant book history) :
    final.WellFormed ∧ Invariant final history' := by
  induction drains with
  | done => exact ⟨wellFormed, holds⟩
  | stopped admits allowed performs =>
    exact ⟨performs.wellFormed wellFormed admits, keeps admits allowed wellFormed holds performs⟩
  | step admits allowed performs rest inductionHypothesis =>
    exact inductionHypothesis (performs.wellFormed wellFormed admits)
      (keeps admits allowed wellFormed holds performs)

/-- An invariant that every admitted operation run to its end keeps holds after a run of the
queue that finished. -/
theorem invariant_of_finished {Invariant : OrderBook ρ → List Placement → Prop}
    (keeps : ∀ {request : BookRequest} {book after : OrderBook ρ} {history : List Placement},
      book.Admits request → allow request → book.WellFormed → Invariant book history →
      Performs now request book after true → Invariant after (placeAfter now book request history))
    (drains : Drains allow now book history final history' true)
    (wellFormed : book.WellFormed) (holds : Invariant book history) :
    final.WellFormed ∧ Invariant final history' := by
  generalize finishedFlag : true = finished at drains
  induction drains with
  | done => exact ⟨wellFormed, holds⟩
  | stopped => cases finishedFlag
  | step admits allowed performs rest inductionHypothesis =>
    exact inductionHypothesis (performs.wellFormed wellFormed admits)
      (keeps admits allowed wellFormed holds performs) finishedFlag

end Drains

end Bourse
