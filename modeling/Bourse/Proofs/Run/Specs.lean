import Mathlib
import Bourse.Proofs.Run.Calls

/-!
# What the book's computations do

Specifications of the `BookM` computations as `Std.Do` triples, from the subscribers up to a
whole call.
-/

open Std.Do

set_option mvcgen.warning false

namespace Bourse

variable {ρ σ : Type}

/-- Every request of a queue is one the book admits and `allow` lets through. The book's check
reads only its symbol, which no operation changes, so this survives everything the operations
do to the book. -/
def OrderBook.AdmitsAll (book : OrderBook ρ) (allow : BookRequest → Prop)
    (pending : List BookRequest) : Prop :=
  ∀ request ∈ pending, book.Admits request ∧ allow request

namespace OrderBook.AdmitsAll

variable {allow : BookRequest → Prop} {book : OrderBook ρ} {pending : List BookRequest}

/-- A book of the same symbol admits the same requests. -/
theorem of_symbol (admitted : book.AdmitsAll allow pending) {other : OrderBook ρ}
    (sameSymbol : other.symbol = book.symbol) : other.AdmitsAll allow pending := by
  intro request member
  obtain ⟨admits, allowed⟩ := admitted request member
  exact ⟨OrderBook.admits_of_symbol sameSymbol admits, allowed⟩

/-- Queueing an admitted request that `allow` lets through. -/
theorem push (admitted : book.AdmitsAll allow pending) {request : BookRequest}
    (admits : book.Admits request) (allowed : allow request) :
    book.AdmitsAll allow (pending ++ [request]) := by
  intro other member
  rcases List.mem_append.mp member with old | new
  · exact admitted other old
  · rw [List.mem_singleton.mp new]
    exact ⟨admits, allowed⟩

/-- The first request of a queue is admitted, and so is everything after it. -/
theorem pop {request : BookRequest} {rest : List BookRequest}
    (admitted : book.AdmitsAll allow (request :: rest)) :
    (book.Admits request ∧ allow request) ∧ book.AdmitsAll allow rest :=
  ⟨admitted request List.mem_cons_self,
    fun other member => admitted other (List.mem_cons_of_mem _ member)⟩

/-- Only the symbol of the book matters. -/
theorem iff_of_symbol {other : OrderBook ρ} (sameSymbol : other.symbol = book.symbol) :
    other.AdmitsAll allow pending ↔ book.AdmitsAll allow pending :=
  ⟨fun admitted => admitted.of_symbol sameSymbol.symm, fun admitted => admitted.of_symbol sameSymbol⟩

@[simp] theorem fill_iff {side : Side} {opposite : Bool} {key : OrderKey} {filled : Header} :
    (book.fill side opposite key filled).AdmitsAll allow pending ↔ book.AdmitsAll allow pending :=
  iff_of_symbol (by simp)

@[simp] theorem record_iff {trade : Trade} :
    (book.record trade).AdmitsAll allow pending ↔ book.AdmitsAll allow pending :=
  iff_of_symbol rfl

@[simp] theorem setSide_iff {side : Side} {orders : BookSide} :
    (book.setSide side orders).AdmitsAll allow pending ↔ book.AdmitsAll allow pending :=
  iff_of_symbol (by simp)

end OrderBook.AdmitsAll

/-- Subscribers ask only for requests that `allow` lets through, among those the book they see
admits. -/
def Delivery.Asks (deliver : Delivery ρ σ) (allow : BookRequest → Prop) : Prop :=
  ∀ audience book subscription event,
    ∀ request ∈ (deliver audience book subscription event).2.requests,
      OrderBook.Admits book request → allow request

theorem OrderBook.admits_add {book : OrderBook ρ} {event : MarketEvent}
    (checked : book.check event = .ok ()) : book.Admits (.add event) := by
  intro other isAdd
  cases isAdd
  exact checked

theorem OrderBook.admits_delete (book : OrderBook ρ) (event : MarketEvent) :
    book.Admits (.delete event) := by
  intro other isAdd
  cases isAdd

/-- The order with `key`, where `fillOrder` looks for it, can be filled by `qty`: a positive
quantity within what it has left. -/
def OrderBook.Fillable (book : OrderBook ρ) (side : Side) (opposite : Bool) (key : OrderKey)
    (qty : Int64) (order : MarketEvent) : Prop :=
  (book.pick side opposite).find? key = some order ∧ 0 < qty ∧ qty ≤ order.header.remainingQty

namespace OrderBook.Fillable

variable {book : OrderBook ρ} {side : Side} {opposite : Bool} {key : OrderKey} {qty : Int64}
  {order : MarketEvent}

/-- The order that can be filled is the one its key finds. -/
theorem eq_of_find (fillable : book.Fillable side opposite key qty order) {other : MarketEvent}
    (found : (book.pick side opposite).find? key = some other) : order = other :=
  Option.some.inj (fillable.1.symm.trans found)

/-- Filling it keeps a well-formed book well formed. -/
theorem wellFormed_fill (fillable : book.Fillable side opposite key qty order)
    (wellFormed : book.WellFormed) (price : Decimal) :
    (book.fill side opposite key (order.header.applyExecution qty price)).WellFormed :=
  wellFormed.fill opposite fillable.1 fillable.2.1 fillable.2.2

end OrderBook.Fillable

/-- In a round of matching in a well-formed book, the aggressor can be filled by the trade's
quantity, and after it, so can the resting order the trade names. -/
theorem OrderBook.WellFormed.round_fillable {book : OrderBook ρ} (wellFormed : book.WellFormed)
    {side : Side} {key : OrderKey} {aggressor resting : MarketEvent} {trade : Trade}
    (found : (book.sideOf side).find? key = some aggressor)
    (live : 0 < aggressor.header.remainingQty)
    (chosen : book.tradeFor aggressor (book.oppositeOf side).orders = some trade)
    (contra : (book.oppositeOf side).find? trade.contraKey = some resting) :
    book.Fillable side false key trade.execution.execQty aggressor ∧
      (book.fill side false key (aggressor.header.applyExecution trade.execution.execQty
        trade.execution.execPrice)).Fillable side true trade.contraKey trade.execution.execQty
        resting := by
  obtain ⟨-, eligible, rfl⟩ := wellFormed.matchRound_trade found chosen contra
  obtain ⟨positive, withinAggressor, withinResting⟩ :=
    PriceTime.tradeAgainst_within live (PriceTime.live_of_eligible eligible)
  refine ⟨⟨found, positive, withinAggressor⟩, ?_, positive, withinResting⟩
  simpa using contra

/-- Taking an order off a side is finding it and erasing its key. -/
theorem BookSide.remove?_eq_some_iff {side : BookSide} {key : OrderKey} {removed : MarketEvent}
    {rest : BookSide} :
    side.remove? key = some (removed, rest) ↔ side.find? key = some removed ∧ rest = side.erase key := by
  unfold BookSide.remove?
  cases side.find? key <;> simp [eq_comm]

namespace MatchDone

variable {book : OrderBook ρ} {side : Side} {key : OrderKey}

/-- Matching is over once the order is gone. -/
theorem of_missing (gone : (book.sideOf side).find? key = none) : MatchDone side key book := by
  intro aggressor found
  rw [gone] at found
  cases found

/-- Matching is over when the order has nothing left, or the strategy finds no trade for it. -/
theorem of_found {aggressor : MarketEvent} (found : (book.sideOf side).find? key = some aggressor)
    (stops : ¬0 < aggressor.header.remainingQty ∨
      book.tradeFor aggressor (book.oppositeOf side).orders = none) :
    MatchDone side key book := by
  intro other foundOther live
  obtain rfl : aggressor = other := Option.some.inj (found.symm.trans foundOther)
  exact stops.resolve_left (not_not.mpr live)

end MatchDone

namespace BookM

section Subscribers

variable {deliver : Delivery ρ σ} {allow : BookRequest → Prop}

/-- Taking a subscriber's requests leaves the book alone and queues only requests the book
admits: an add the book refuses is dropped. -/
theorem takeRequests_spec (current : OrderBook ρ) (requests : List BookRequest)
    (asked : ∀ request ∈ requests, current.Admits request → allow request) :
    ⦃fun run => ⌜run.book = current ∧ current.AdmitsAll allow run.pending⌝⦄
      (takeRequests requests : BookM ρ σ Unit)
    ⦃post⟨fun _ run => ⌜run.book = current ∧ current.AdmitsAll allow run.pending⌝,
      fun _ run => ⌜run.book = current ∧ current.AdmitsAll allow run.pending⌝⟩⦄ := by
  induction requests with
  | nil => mvcgen [takeRequests]
  | cons request rest inductionHypothesis =>
    have restSpec := inductionHypothesis
      fun later member => asked later (List.mem_cons_of_mem _ member)
    mvcgen [takeRequests, book, enqueue, log, note, restSpec]
    · -- An add that passes the check is queued.
      rename_i event isAdd run framed checked next
      subst isAdd
      obtain ⟨sameBook, admitted⟩ := framed
      have admits : current.Admits (.add event) := OrderBook.admits_add (sameBook ▸ checked)
      exact ⟨sameBook, admitted.push admits (asked _ List.mem_cons_self admits)⟩
    · -- A delete is queued as it is.
      rename_i event isDelete run framed next
      subst isDelete
      obtain ⟨sameBook, admitted⟩ := framed
      have admits := current.admits_delete event
      exact ⟨sameBook, admitted.push admits (asked _ List.mem_cons_self admits)⟩

/-- Delivering an event to a subscriber leaves the book alone and only queues requests the
book admits and `allow` lets through. -/
theorem deliverTo_spec (asks : deliver.Asks allow) (current : OrderBook ρ)
    (subscription : Subscription ρ) (event : MarketEvent) :
    ⦃fun run => ⌜run.book = current ∧ current.AdmitsAll allow run.pending⌝⦄
      deliverTo deliver subscription event
    ⦃post⟨fun _ run => ⌜run.book = current ∧ current.AdmitsAll allow run.pending⌝,
      fun _ run => ⌜run.book = current ∧ current.AdmitsAll allow run.pending⌝⟩⦄ := by
  mvcgen [deliverTo, book, log, note, takeRequests_spec]
  case asked =>
    -- What the subscriber asks for, it asks of the book it was shown.
    intro request member admits
    exact asks _ _ subscription event request member admits
  all_goals simp_all +zetaDelta

/-- Delivering an event to a list of subscribers does no more than delivering it to each. -/
theorem deliverAll_spec (asks : deliver.Asks allow) (current : OrderBook ρ) (event : MarketEvent)
    (subscriptions : List (Subscription ρ)) :
    ⦃fun run => ⌜run.book = current ∧ current.AdmitsAll allow run.pending⌝⦄
      deliverAll deliver event subscriptions
    ⦃post⟨fun _ run => ⌜run.book = current ∧ current.AdmitsAll allow run.pending⌝,
      fun _ run => ⌜run.book = current ∧ current.AdmitsAll allow run.pending⌝⟩⦄ := by
  induction subscriptions with
  | nil => mvcgen [deliverAll]
  | cons subscription rest inductionHypothesis =>
    have deliverSpec := deliverTo_spec asks
    mvcgen [deliverAll, deliverSpec, inductionHypothesis]
    all_goals simp_all

/-- Publishing an event leaves the book alone and only queues requests the book admits and
`allow` lets through. -/
theorem publish_spec (asks : deliver.Asks allow) (current : OrderBook ρ) (event : MarketEvent) :
    ⦃fun run => ⌜run.book = current ∧ current.AdmitsAll allow run.pending⌝⦄
      publish deliver event
    ⦃post⟨fun _ run => ⌜run.book = current ∧ current.AdmitsAll allow run.pending⌝,
      fun _ run => ⌜run.book = current ∧ current.AdmitsAll allow run.pending⌝⟩⦄ := by
  have deliverSpec := deliverAll_spec asks
  mvcgen [publish, note, book, deliverSpec]

end Subscribers

section Book

variable {allow : BookRequest → Prop}

/-- A note changes neither the book nor the queue. -/
theorem note_spec (current : OrderBook ρ) (pending : List BookRequest) (entry : BookNote) :
    ⦃fun run => ⌜run.book = current ∧ run.pending = pending⌝⦄
      (note entry : BookM ρ σ Unit)
    ⦃⇓ _ run => ⌜run.book = current ∧ run.pending = pending⌝⦄ := by
  mvcgen [note]

/-- A log record changes neither the book nor the queue. -/
theorem log_spec (current : OrderBook ρ) (pending : List BookRequest) (level : LogLevel)
    (message : String) (fields : List Field) :
    ⦃fun run => ⌜run.book = current ∧ run.pending = pending⌝⦄
      (log level message fields : BookM ρ σ Unit)
    ⦃⇓ _ run => ⌜run.book = current ∧ run.pending = pending⌝⦄ := by
  mvcgen [log, note_spec]

@[simp] theorem run_throw {α : Type} (message : String) (run : BookRun ρ σ) :
    EStateM.run (throw message : BookM ρ σ α) run = .error message run := rfl

variable (σ) in
/-- Putting a trade on the tape. -/
theorem record_spec (current : OrderBook ρ) (pending : List BookRequest) (trade : Trade) :
    ⦃fun run => ⌜run.book = current ∧ run.pending = pending⌝⦄
      (record trade : BookM ρ σ Unit)
    ⦃post⟨fun _ run => ⌜run.book = current.record trade ∧ run.pending = pending⌝,
      fun _ _ => ⌜False⌝⟩⦄ := by
  mvcgen [record, modifyBook, note]
  all_goals simp_all +zetaDelta [OrderBook.record]

/-- In a well-formed book, `fillOrder` returns exactly when the order can be filled: it then
books the execution and leaves the filled book, for the filled quantities always add up.
Otherwise it stops before touching the book. -/
theorem fillOrder_spec (current : OrderBook ρ) (pending : List BookRequest)
    (wellFormed : current.WellFormed) (side : Side) (opposite : Bool) (key : OrderKey) (qty : Int64)
    (price : Decimal) :
    ⦃fun run => ⌜run.book = current ∧ run.pending = pending⌝⦄
      (fillOrder side opposite key qty price : BookM ρ σ Header)
    ⦃post⟨fun filled run => ⌜∃ order, current.Fillable side opposite key qty order ∧
        filled = order.header.applyExecution qty price ∧
        run.book = current.fill side opposite key filled ∧ run.pending = pending⌝,
      fun _ run => ⌜(∀ order, ¬current.Fillable side opposite key qty order) ∧
        run.book = current ∧ run.pending = pending⌝⟩⦄ := by
  intro run pre
  simp only [SPred.down_pure] at pre
  obtain ⟨rfl, rfl⟩ := pre
  cases found : (run.book.pick side opposite).find? key with
  | none =>
    -- Nothing rests under the key: the lookup fails before the book is touched.
    have missing : ∀ order, ¬run.book.Fillable side opposite key qty order := by
      intro order fillable
      rw [fillable.1] at found
      cases found
    cases opposite <;>
    simp only [OrderBook.pick_false, OrderBook.pick_true] at found <;>
    simp [fillOrder, book, wp, PredTrans.apply, found, missing]
  | some order =>
    by_cases legal : 0 < qty ∧ qty ≤ order.header.remainingQty
    case neg =>
      -- The quantity is refused before the book is touched.
      have missing : ∀ other, ¬run.book.Fillable side opposite key qty other := by
        rintro other ⟨foundOther, fillable⟩
        rw [found] at foundOther
        cases foundOther
        exact legal fillable
      have refused : qty ≤ 0 ∨ order.header.remainingQty < qty := by
        by_cases positive : 0 < qty
        · exact .inr (Int64.not_le.mp fun within => legal ⟨positive, within⟩)
        · exact .inl (Int64.not_lt.mp positive)
      cases opposite <;>
      simp only [OrderBook.pick_false, OrderBook.pick_true] at found <;>
      simp [fillOrder, book, wp, PredTrans.apply, found, missing, refused]
    case pos =>
    obtain ⟨positive, within⟩ := legal
    have filledBalanced := ((wellFormed.pick side opposite).balanced order
      ((wellFormed.pick side opposite).mem_of_find? found)).applyExecution price positive within
    -- Neither check of `fillOrder` fires: the quantity is legal, and the result adds up.
    have legal : ¬(qty ≤ 0 ∨ order.header.remainingQty < qty) := by
      simp [Int64.not_le.mpr positive, Int64.not_lt.mpr within]
    have consistent := filledBalanced.passes_check
    have fillable : run.book.Fillable side opposite key qty order := ⟨found, positive, within⟩
    cases opposite <;>
    simp only [OrderBook.pick_false, OrderBook.pick_true] at found <;>
    simp [fillOrder, book, modifyBook, wp, PredTrans.apply, found, legal, consistent,
      OrderBook.fill, OrderBook.store, OrderBook.pick, BookSide.fill] <;>
    -- What is left is whether the fill took everything, and so whether the order comes off.
    by_cases exhausted : (order.header.applyExecution qty price).remainingQty = 0 <;>
    simp [exhausted] <;>
    exact ⟨order, fillable, rfl⟩

variable (σ) in
/-- `fillOrder` on an order that can be filled fills it. -/
theorem fillOrder_fills {current : OrderBook ρ} (wellFormed : current.WellFormed) {side : Side}
    {opposite : Bool} {key : OrderKey} {qty : Int64} {order : MarketEvent}
    (fillable : current.Fillable side opposite key qty order) (price : Decimal)
    (pending : List BookRequest) :
    ⦃fun run => ⌜run.book = current ∧ run.pending = pending⌝⦄
      (fillOrder side opposite key qty price : BookM ρ σ Header)
    ⦃post⟨fun _ run => ⌜run.book = current.fill side opposite key
        (order.header.applyExecution qty price) ∧ run.pending = pending⌝,
      fun _ _ => ⌜False⌝⟩⦄ := by
  mvcgen [fillOrder_spec]
  · rename_i run pre filled after
    obtain ⟨rfl, rfl⟩ := pre
    rintro ⟨other, otherFillable, rfl, filledBook, samePending⟩
    obtain rfl := fillable.eq_of_find otherFillable.1
    exact ⟨filledBook, samePending⟩
  · rename_i run pre message after
    obtain ⟨rfl, rfl⟩ := pre
    intro missing
    exact (missing order fillable).elim
  · intro run sameBook _
    exact sameBook ▸ wellFormed

variable {deliver : Delivery ρ σ}

/-- Matching, continued from a book that rounds of matching reached from `start`: the rounds
it runs carry on from there. Stated from `start` so that the recursive call, the last thing a
round does, keeps the caller's `start`. -/
theorem matchOrder_continues (asks : deliver.Asks allow) (now : Instant) (side : Side)
    (key : OrderKey) (rounds : Nat) (start current : OrderBook ρ) :
    ⦃fun run => ⌜run.book = current ∧ Relation.ReflTransGen (MatchRound side key now) start current ∧
        current.WellFormed ∧
        ((current.sideOf side).find? key = none ∨ (current.oppositeOf side).size < rounds) ∧
        start.AdmitsAll allow run.pending⌝⦄
      matchOrder deliver now side key rounds
    ⦃post⟨fun _ run => ⌜Relation.ReflTransGen (MatchRound side key now) start run.book ∧
        MatchDone side key run.book ∧ start.AdmitsAll allow run.pending⌝,
      fun _ run => ⌜Relation.ReflTransGen (MatchRound side key now) start run.book ∧
        start.AdmitsAll allow run.pending⌝⟩⦄ := by
  induction rounds generalizing current with
  | zero =>
    mvcgen [matchOrder]
    -- Without fuel the order must already be gone.
    rename_i run pre
    obtain ⟨rfl, reached, -, enough, admitted⟩ := pre
    exact ⟨reached, .of_missing (enough.resolve_right (Nat.not_lt_zero _)), admitted⟩
  | succ rounds inductionHypothesis =>
    have publishSpec := publish_spec asks
    mvcgen [matchOrder, book]
    · -- The order is gone.
      rename_i run pre gone
      obtain ⟨rfl, reached, -, -, admitted⟩ := pre
      exact ⟨reached, .of_missing gone, admitted⟩
    · -- The order has nothing left.
      rename_i run pre aggressor found header spent
      obtain ⟨rfl, reached, -, -, admitted⟩ := pre
      exact ⟨reached, .of_found found (.inl (Int64.not_lt.mpr spent)), admitted⟩
    · -- The strategy finds no trade.
      rename_i run pre aggressor found header live opposite tradeOption noTrade
      obtain ⟨rfl, reached, -, -, admitted⟩ := pre
      exact ⟨reached, .of_found found (.inr noTrade), admitted⟩
    · -- The trade names an order that does not rest: the book is left as it was.
      rename_i run pre aggressor found header live opposite tradeOption trade chosen execution
        contraKey unknown
      obtain ⟨rfl, reached, -, -, admitted⟩ := pre
      exact ⟨reached, admitted⟩
    · -- A round: both orders are filled, both trades recorded and published, and matching
      -- goes on from the book the round leaves.
      rename_i run pre aggressor found header live opposite tradeOption trade chosen execution
        contraKey resting contra counter stamped stampedCounter
      obtain ⟨rfl, reached, wellFormed, enough, admitted⟩ := pre
      have positive : 0 < aggressor.header.remainingQty := Int64.not_le.mp live
      have round : MatchRound side key now run.book
          (run.book.afterRound side key now aggressor resting trade) :=
        .traded found positive chosen contra
      obtain ⟨fillsAggressor, fillsResting⟩ :=
        wellFormed.round_fillable found positive chosen contra
      have fillAggressor :=
        fillOrder_fills σ wellFormed fillsAggressor execution.execPrice run.pending
      -- The program names the resting order by the fields of the execution.
      have fillsResting : (run.book.fill side false key (aggressor.header.applyExecution
          execution.execQty execution.execPrice)).Fillable side true
          ⟨execution.contraClientId, execution.contraOrderId⟩ execution.execQty resting :=
        fillsResting
      have fillResting := fillOrder_fills σ (fillsAggressor.wellFormed_fill wellFormed _)
        fillsResting execution.execPrice run.pending
      have recordTrade := record_spec σ (((run.book.fill side false key
        (aggressor.header.applyExecution execution.execQty execution.execPrice)).fill side true
        ⟨execution.contraClientId, execution.contraOrderId⟩
        (resting.header.applyExecution execution.execQty execution.execPrice))) run.pending stamped
      have recordCounter := record_spec σ (((run.book.fill side false key
        (aggressor.header.applyExecution execution.execQty execution.execPrice)).fill side true
        ⟨execution.contraClientId, execution.contraOrderId⟩
        (resting.header.applyExecution execution.execQty execution.execPrice)).record stamped)
        run.pending stampedCounter
      -- Matching goes on from the book the round leaves, which has the symbol of `start`.
      set after := run.book.afterRound side key now aggressor resting trade
      have reachedAfter := reached.tail round
      have sameSymbol := (MatchRound.symbol_strategy_of_rounds reachedAfter).1
      have fuelAfter : (after.sideOf side).find? key = none ∨
          (after.oppositeOf side).size < rounds := by
        have bound := enough.resolve_left (by simp [found])
        rcases round.progress wellFormed with gone | shorter
        · exact .inl gone
        · exact .inr (by omega)
      have publishTrade := publish_spec asks after stamped.toEvent
      have publishCounter := publish_spec asks after stampedCounter.toEvent
      have continues := inductionHypothesis after
      mvcgen [fillAggressor, fillResting, recordTrade, recordCounter, publishTrade,
        publishCounter, continues]
      · rename_i recorded
        obtain ⟨recordedBook, samePending⟩ := recorded
        exact ⟨recordedBook, samePending ▸ admitted.of_symbol sameSymbol⟩
      · rename_i published
        obtain ⟨publishedBook, admits⟩ := published
        exact ⟨publishedBook, reachedAfter, round.wellFormed wellFormed, fuelAfter,
          admits.of_symbol sameSymbol.symm⟩
      -- A subscriber stopped the run after the round.
      all_goals
        intro stoppedBook admits
        rw [stoppedBook]
        exact ⟨reachedAfter, admits.of_symbol sameSymbol.symm⟩

/-- Matching an order of a well-formed book runs rounds of matching until the order is done,
when the fuel is enough: one round for each order resting on the other side, and one more.
A subscriber may stop it after any round. -/
theorem matchOrder_spec (asks : deliver.Asks allow) (now : Instant) (side : Side)
    (key : OrderKey) (rounds : Nat) (current : OrderBook ρ) :
    ⦃fun run => ⌜run.book = current ∧ current.WellFormed ∧
        ((current.sideOf side).find? key = none ∨ (current.oppositeOf side).size < rounds) ∧
        current.AdmitsAll allow run.pending⌝⦄
      matchOrder deliver now side key rounds
    ⦃post⟨fun _ run => ⌜Relation.ReflTransGen (MatchRound side key now) current run.book ∧
        MatchDone side key run.book ∧ current.AdmitsAll allow run.pending⌝,
      fun _ run => ⌜Relation.ReflTransGen (MatchRound side key now) current run.book ∧
        current.AdmitsAll allow run.pending⌝⟩⦄ := by
  have continues := matchOrder_continues asks now side key rounds current current
  mvcgen [continues]
  rename_i run pre
  obtain ⟨sameBook, wellFormed, enough, admitted⟩ := pre
  exact ⟨sameBook, .refl, wellFormed, enough, admitted⟩

/-- Placing an order the book admits: a duplicate key changes nothing; otherwise the order
goes on its side and is matched, to the end when no subscriber stops the run. -/
theorem place_spec (asks : deliver.Asks allow) (now : Instant) (event : MarketEvent)
    (current : OrderBook ρ) :
    ⦃fun run => ⌜run.book = current ∧ current.WellFormed ∧ current.check event = .ok () ∧
        Trade.ofEvent? event = none ∧ current.AdmitsAll allow run.pending⌝⦄
      place deliver now event
    ⦃post⟨fun _ run => ⌜Performs now (.add event) current run.book true ∧
        current.AdmitsAll allow run.pending⌝,
      fun _ run => ⌜Performs now (.add event) current run.book false ∧
        current.AdmitsAll allow run.pending⌝⟩⦄ := by
  have publishSpec := publish_spec asks
  have matchSpec := matchOrder_spec asks now
  mvcgen [place, book, modifyBook, log, note, publishSpec, matchSpec]
  · -- A duplicate key: the order is ignored.
    rename_i header stamped order run pre duplicate ignored
    obtain ⟨rfl, -, -, -, admitted⟩ := pre
    refine ⟨.unchanged fun other same _ => ?_, admitted⟩
    cases same
    exact duplicate
  · -- The order rests: subscribers see it with the book it is on.
    rename_i header stamped order run pre fresh placed
    obtain ⟨rfl, -, -, -, admitted⟩ := pre
    exact ⟨trivial, admitted.of_symbol (OrderBook.symbol_setSide ..)⟩
  · -- Matching starts from the book with the order on it, with one round per resting order.
    rename_i header stamped order run pre fresh placed _ published publishedBook
    obtain ⟨rfl, wellFormed, checked, isOrder, -⟩ := pre
    obtain ⟨sameBook, admits⟩ := publishedBook
    rw [sameBook]
    exact ⟨trivial, wellFormed.placeOrder now checked isOrder (Bool.eq_false_iff.mpr fresh),
      .inr (Nat.lt_succ_self _), admits⟩
  · -- Matching ran to its end.
    rename_i header stamped order run pre fresh placed _ published publishedBook _ matched
    obtain ⟨rfl, -, -, isOrder, admitted⟩ := pre
    obtain ⟨sameBook, -⟩ := publishedBook
    intro rounds done admits
    rw [sameBook] at rounds admits
    exact ⟨.placed isOrder (Bool.eq_false_iff.mpr fresh) rounds fun _ => done,
      admits.of_symbol (OrderBook.symbol_setSide ..).symm⟩
  · -- A subscriber stopped matching.
    rename_i header stamped order run pre fresh placed _ published publishedBook _ stopped
    obtain ⟨rfl, -, -, isOrder, admitted⟩ := pre
    obtain ⟨sameBook, -⟩ := publishedBook
    intro rounds admits
    rw [sameBook] at rounds admits
    exact ⟨.placed isOrder (Bool.eq_false_iff.mpr fresh) rounds nofun,
      admits.of_symbol (OrderBook.symbol_setSide ..).symm⟩
  · -- A subscriber stopped the run as soon as the order went on the book.
    rename_i header stamped order run pre fresh placed _ stopped
    obtain ⟨rfl, -, -, isOrder, admitted⟩ := pre
    intro stoppedBook admits
    rw [stoppedBook]
    exact ⟨.placed isOrder (Bool.eq_false_iff.mpr fresh) .refl nofun,
      admits.of_symbol (OrderBook.symbol_setSide ..).symm⟩

/-- Deleting: an order resting under the key comes off its side; otherwise nothing changes.
The delete is published either way. -/
theorem remove_spec (asks : deliver.Asks allow) (now : Instant) (event : MarketEvent)
    (current : OrderBook ρ) :
    ⦃fun run => ⌜run.book = current ∧ current.AdmitsAll allow run.pending⌝⦄
      remove deliver event
    ⦃post⟨fun _ run => ⌜Performs now (.delete event) current run.book true ∧
        current.AdmitsAll allow run.pending⌝,
      fun _ run => ⌜Performs now (.delete event) current run.book false ∧
        current.AdmitsAll allow run.pending⌝⟩⦄ := by
  have publishSpec := publish_spec asks
  mvcgen [remove, book, modifyBook, log, note, publishSpec]
  all_goals obtain ⟨rfl, admitted⟩ := ‹_ = current ∧ _›
  · -- The order rests: it comes off, and subscribers see the book without it.
    exact ⟨trivial, admitted.of_symbol (OrderBook.symbol_setSide ..)⟩
  iterate 2
    · rename_i removal _ _ _ _
      obtain ⟨found, rfl⟩ := BookSide.remove?_eq_some_iff.mp removal
      intro publishedBook admits
      rw [publishedBook]
      exact ⟨.taken found, admits.of_symbol (OrderBook.symbol_setSide ..).symm⟩
  · -- Nothing rests under the key: only the request itself is published.
    exact ⟨trivial, admitted⟩
  all_goals
    intro publishedBook admits
    rw [publishedBook]
    exact ⟨.unchanged (fun _ same => by cases same), admits⟩

/-- Filling the order a trade names and putting the applied trade on the tape settles the
trade. -/
theorem settle_post {event : MarketEvent} {trade : Trade} (now : Instant)
    (outside : Trade.ofEvent? event = some trade) {book : OrderBook ρ} {pending : List BookRequest}
    {qty : Int64} {price : Decimal} {filled : Header} {applied : Trade}
    {filledRun recordedRun : BookRun ρ σ}
    (fills : ∃ order, book.Fillable trade.header.side false trade.header.key qty order ∧
      filled = order.header.applyExecution qty price ∧
      filledRun.book = book.fill trade.header.side false trade.header.key filled ∧
      filledRun.pending = pending)
    (recorded : recordedRun.book = filledRun.book.record applied ∧
      recordedRun.pending = filledRun.pending) (finished : Bool) :
    Performs now (.add event) book recordedRun.book finished ∧ recordedRun.pending = pending := by
  obtain ⟨order, ⟨found, positive, within⟩, rfl, filledBook, filledPending⟩ := fills
  obtain ⟨recordedBook, recordedPending⟩ := recorded
  rw [recordedBook, filledBook, recordedPending, filledPending]
  exact ⟨.settled outside found positive within, rfl⟩

/-- Applying a trade from outside: when the order it names rests, the order is filled by a
positive quantity within what it has left (the trade's own, or all that is left when the trade
is complete or its quantity is out of range) and the applied trade goes on the tape. When the
order does not rest, or has nothing left to fill, nothing changes. -/
theorem applyTrade_spec (asks : deliver.Asks allow) (now : Instant) {event : MarketEvent}
    {trade : Trade} (outside : Trade.ofEvent? event = some trade) (current : OrderBook ρ) :
    ⦃fun run => ⌜run.book = current ∧ current.WellFormed ∧ current.AdmitsAll allow run.pending⌝⦄
      applyTrade deliver now trade
    ⦃post⟨fun _ run => ⌜Performs now (.add event) current run.book true ∧
        current.AdmitsAll allow run.pending⌝,
      fun _ run => ⌜Performs now (.add event) current run.book false ∧
        current.AdmitsAll allow run.pending⌝⟩⦄ := by
  have publishSpec := publish_spec asks
  mvcgen [applyTrade, book, log, note, fillOrder_spec, record_spec, publishSpec]
  all_goals obtain ⟨rfl, wellFormed, admitted⟩ := ‹_ = current ∧ _›
  · -- The order the trade names does not rest: nothing changes.
    exact ⟨.unchanged (fun other same isOrder => by cases same; simp [outside] at isOrder),
      admitted⟩
  -- The three ways of choosing the quantity leave the same conditions, in the same order.
  iterate 3
    · exact wellFormed
    · rename_i fills _ _ recorded _
      obtain ⟨performs, samePending⟩ := settle_post now outside fills recorded true
      rw [samePending]
      exact ⟨trivial, admitted.of_symbol performs.symbol_strategy.1⟩
    · rename_i fills _ _ recorded _ _ _
      intro publishedBook admits
      obtain ⟨performs, -⟩ := settle_post now outside fills recorded true
      rw [publishedBook]
      exact ⟨performs, admits.of_symbol performs.symbol_strategy.1.symm⟩
    · rename_i fills _ _ recorded _ _ _
      intro publishedBook admits
      obtain ⟨performs, -⟩ := settle_post now outside fills recorded false
      rw [publishedBook]
      exact ⟨performs, admits.of_symbol performs.symbol_strategy.1.symm⟩
    · -- The quantity cannot be filled: the book is left as it was.
      intro _ stoppedBook stoppedPending
      rw [stoppedBook, stoppedPending]
      exact ⟨.unchanged (fun other same isOrder => by cases same; simp [outside] at isOrder),
        admitted⟩

/-- One operation of the queue, on a well-formed book that admits it, does what `Performs`
says, to its end when it returns; the queue only grows by admitted requests. -/
theorem perform_spec (asks : deliver.Asks allow) (now : Instant) (request : BookRequest)
    (current : OrderBook ρ) :
    ⦃fun run => ⌜run.book = current ∧ current.WellFormed ∧ current.Admits request ∧
        current.AdmitsAll allow run.pending⌝⦄
      perform deliver now request
    ⦃post⟨fun _ run => ⌜Performs now request current run.book true ∧
        current.AdmitsAll allow run.pending⌝,
      fun _ run => ⌜Performs now request current run.book false ∧
        current.AdmitsAll allow run.pending⌝⟩⦄ := by
  cases request with
  | add event =>
    cases outside : Trade.ofEvent? event with
    | some trade =>
      have tradeSpec := applyTrade_spec asks now outside current
      simp only [perform, outside]
      mvcgen [tradeSpec]
      rename_i run pre
      obtain ⟨sameBook, wellFormed, -, admitted⟩ := pre
      exact ⟨sameBook, wellFormed, admitted⟩
    | none =>
      have placeSpec := place_spec asks now event current
      simp only [perform, outside]
      mvcgen [placeSpec]
      rename_i run pre
      obtain ⟨sameBook, wellFormed, admits, admitted⟩ := pre
      exact ⟨sameBook, wellFormed, admits event rfl, outside, admitted⟩
  | delete event =>
    have removeSpec := remove_spec asks now event current
    simp only [perform]
    mvcgen [removeSpec]
    rename_i run pre
    obtain ⟨sameBook, -, -, admitted⟩ := pre
    exact ⟨sameBook, admitted⟩

end Book

end BookM

end Bourse
