import Bourse.Proofs.Run.Publication

/-!
# Runs that calm subscribers cannot stop

With subscribers that never report a broken invariant (`Delivery.Calm`), the book itself is the
only thing that can stop a run, and in a well-formed book only one of its checks can fire: an
outside trade for an order that rests with nothing left to fill (`OrderBook.TradesSpent`).
Matching, placing and deleting always return; applying a trade returns unless the order it
names is spent, and then it stops before it touches the book.

Each of these steps publishes one of the moves `Publication` names, so what a delivery watches
is carried from the book before the step to the book after it: through an operation
(`BookM.perform_calm`), a run of the queue (`BookM.drain_calm`) and a call
(`BookCall.exec_calm`), whether the call returned or not, and so along every sequence of calls
(`BookRun.Called.sees`) and every book reached from empty (`Reachable.sees`).
-/

open Std.Do

set_option mvcgen.warning false

namespace Bourse

variable {ρ σ : Type}

/-- An outside trade for an order that rests with nothing left to fill: the one request a
well-formed book stops on. -/
def OrderBook.TradesSpent (book : OrderBook ρ) (request : BookRequest) : Prop :=
  ∃ event trade resting, request = .add event ∧ Trade.ofEvent? event = some trade ∧
    (book.sideOf trade.header.side).find? trade.header.key = some resting ∧
    resting.header.remainingQty ≤ 0

/-- An outside trade whose order rests under its key, but cannot be filled by the quantity
chosen for it, trades a spent order: the quantity chosen is either all the order has left or
a positive quantity within it. -/
theorem OrderBook.TradesSpent.of_stuck {book : OrderBook ρ} {event : MarketEvent} {trade : Trade}
    {resting : MarketEvent} {qty : Int64} (outside : Trade.ofEvent? event = some trade)
    (found : (book.sideOf trade.header.side).find? trade.header.key = some resting)
    (stuck : ∀ order, ¬book.Fillable trade.header.side false trade.header.key qty order)
    (chosen : qty = resting.header.remainingQty ∨ 0 < qty ∧ qty ≤ resting.header.remainingQty) :
    book.TradesSpent (.add event) := by
  refine ⟨event, trade, resting, rfl, outside, found, Int64.not_lt.mp fun live => ?_⟩
  rcases chosen with rfl | within
  · exact stuck resting ⟨found, live, Int64.le_refl _⟩
  · exact stuck resting ⟨found, within⟩

namespace BookM

section Frame

variable (knows : σ → Prop)

/-- Filling an order leaves the subscribers' state alone, whether it returns or stops. -/
theorem fillOrder_audience (side : Side) (opposite : Bool) (key : OrderKey) (qty : Int64)
    (price : Decimal) :
    ⦃fun run => ⌜knows run.audience⌝⦄
      (fillOrder side opposite key qty price : BookM ρ σ Header)
    ⦃post⟨fun _ run => ⌜knows run.audience⌝, fun _ run => ⌜knows run.audience⌝⟩⦄ := by
  mvcgen [fillOrder, book, modifyBook]

/-- Putting a trade on the tape leaves the subscribers' state alone. -/
theorem record_audience (trade : Trade) :
    ⦃fun run => ⌜knows run.audience⌝⦄
      (record trade : BookM ρ σ Unit)
    ⦃post⟨fun _ run => ⌜knows run.audience⌝, fun _ _ => ⌜False⌝⟩⦄ := by
  mvcgen [record, modifyBook, note]

end Frame

variable {deliver : Delivery ρ σ} {allow : BookRequest → Prop} {Sees : σ → OrderBook ρ → Prop}

section Steps

variable (calm : deliver.Calm) (asks : deliver.Asks allow) (watches : deliver.Watches allow Sees)
include calm asks watches

/-- Matching in a well-formed book, with enough fuel, never stops: the strategy's trade always
names a resting order, both fills are within what the orders have left, and calm subscribers
do not stop it. Each round publishes two moves, so what the subscribers see of the book is
carried to the book matching leaves. -/
theorem matchOrder_calm (now : Instant) (side : Side) (key : OrderKey) (rounds : Nat)
    (current : OrderBook ρ) :
    ⦃fun run => ⌜run.book = current ∧ current.WellFormed ∧
        ((current.sideOf side).find? key = none ∨ (current.oppositeOf side).size < rounds) ∧
        current.AdmitsAll allow run.pending ∧ Sees run.audience current⌝⦄
      matchOrder deliver now side key rounds
    ⦃post⟨fun _ run => ⌜Sees run.audience run.book⌝, fun _ _ => ⌜False⌝⟩⦄ := by
  induction rounds generalizing current with
  | zero =>
    mvcgen [matchOrder]
    rename_i run pre
    obtain ⟨rfl, -, -, -, saw⟩ := pre
    exact saw
  | succ rounds inductionHypothesis =>
    mvcgen [matchOrder, book]
    -- The order is gone, has nothing left, or meets no trade: matching is over.
    iterate 3
      · obtain ⟨rfl, -, -, -, saw⟩ := ‹_ ∧ _›
        exact saw
    · -- The trade names an order that does not rest: impossible in a well-formed book.
      rename_i run pre aggressor found header live opposite tradeOption trade chosen execution
        contraKey unknown
      obtain ⟨rfl, wellFormed, -⟩ := pre
      obtain ⟨resting, rests, -⟩ := wellFormed.tradeFor_eq_some found chosen
      exact absurd (rests.symm.trans unknown) (Option.some_ne_none _)
    · -- A round: both fills go through, and each trade publishes a move the subscribers watch.
      rename_i run pre aggressor found header live opposite tradeOption trade chosen execution
        contraKey resting contra counter stamped stampedCounter
      obtain ⟨rfl, wellFormed, enough, admitted, saw⟩ := pre
      have positive : 0 < aggressor.header.remainingQty := Int64.not_le.mp live
      have round : MatchRound side key now run.book
          (run.book.afterRound side key now aggressor resting trade) :=
        .traded found positive chosen contra
      obtain ⟨fillsAggressor, fillsResting⟩ :=
        wellFormed.round_fillable found positive chosen contra
      obtain ⟨publishesTrade, publishesCounter⟩ :=
        wellFormed.round_publications allow now found positive chosen contra
      have fillAggressor := Triple.and _
        (fillOrder_fills σ wellFormed fillsAggressor execution.execPrice run.pending)
        (fillOrder_audience (Sees · run.book) side false key execution.execQty
          execution.execPrice)
      have fillsResting : (run.book.fill side false key (aggressor.header.applyExecution
          execution.execQty execution.execPrice)).Fillable side true
          ⟨execution.contraClientId, execution.contraOrderId⟩ execution.execQty resting :=
        fillsResting
      have fillResting := Triple.and _
        (fillOrder_fills σ (fillsAggressor.wellFormed_fill wellFormed _) fillsResting
          execution.execPrice run.pending)
        (fillOrder_audience (Sees · run.book) side true
          ⟨execution.contraClientId, execution.contraOrderId⟩ execution.execQty
          execution.execPrice)
      have recordTrade := Triple.and _ (record_spec σ ((run.book.fill side false key
        (aggressor.header.applyExecution execution.execQty execution.execPrice)).fill side true
        ⟨execution.contraClientId, execution.contraOrderId⟩
        (resting.header.applyExecution execution.execQty execution.execPrice)) run.pending stamped)
        (record_audience (Sees · run.book) stamped)
      have recordCounter := Triple.and _ (record_spec σ (((run.book.fill side false key
        (aggressor.header.applyExecution execution.execQty execution.execPrice)).fill side true
        ⟨execution.contraClientId, execution.contraOrderId⟩
        (resting.header.applyExecution execution.execQty execution.execPrice)).record stamped)
        run.pending stampedCounter)
        (record_audience (Sees · run.book) stampedCounter)
      -- Both publications show the book the round leaves, and matching goes on from it.
      set after := run.book.afterRound side key now aggressor resting trade
      have sameSymbol := (MatchRound.symbol_strategy_of_rounds (.single round)).1
      have fuelAfter : (after.sideOf side).find? key = none ∨
          (after.oppositeOf side).size < rounds := by
        have bound := enough.resolve_left (by simp [found])
        rcases round.progress wellFormed with gone | shorter
        · exact .inl gone
        · exact .inr (by omega)
      have publishTrade := publish_calm calm asks watches publishesTrade wellFormed after
        (by simp [after, OrderBook.afterRound])
      have publishCounter := publish_calm calm asks watches publishesCounter
        ((fillsAggressor.wellFormed_fill wellFormed _).record _) after rfl
      have continues := inductionHypothesis after
      mvcgen [fillAggressor, fillResting, recordTrade, recordCounter, publishTrade,
        publishCounter, continues]
      · -- The round's book is the one both trades are published with.
        obtain ⟨⟨recordedBook, samePending⟩, sees⟩ := ‹_ ∧ _›
        exact ⟨recordedBook, sees, samePending ▸ admitted.of_symbol sameSymbol⟩
      · obtain ⟨sameBook, sees, admits⟩ := ‹_ ∧ _›
        exact ⟨sameBook, round.wellFormed wellFormed, fuelAfter, admits, sees⟩
      -- Neither fill nor either record stops.
      all_goals simp

/-- Placing an order never stops: a duplicate key is ignored, and otherwise the order goes on
its side, is shown as it rests, and is matched. -/
theorem place_calm (now : Instant) {event : MarketEvent} {current : OrderBook ρ}
    (wellFormed : current.WellFormed) (checked : current.check event = .ok ())
    (allowed : allow (.add event)) (isOrder : Trade.ofEvent? event = none) :
    ⦃fun run => ⌜run.book = current ∧ current.AdmitsAll allow run.pending ∧
        Sees run.audience current⌝⦄
      place deliver now event
    ⦃post⟨fun _ run => ⌜Sees run.audience run.book⌝, fun _ _ => ⌜False⌝⟩⦄ := by
  -- The order is published as it rests, stamped.
  have publishSpec := fun (shown : MarketEvent)
      (stamped : shown = event.withHeader (OrderBook.stamp now event.header))
      (fresh : (current.sideOf event.header.side).contains event.key = false) =>
    stamped ▸ publish_calm calm asks watches (.placed allowed isOrder fresh) wellFormed
      (current.placeOrder now event) rfl
  have matchSpec := matchOrder_calm calm asks watches now
  mvcgen [place, book, modifyBook, log, note, publishSpec, matchSpec]
  · -- A duplicate key: the order is ignored.
    obtain ⟨rfl, -, saw⟩ := ‹_ ∧ _›
    exact saw
  · rename_i header stamped order run pre fresh _
    obtain ⟨rfl, -⟩ := pre
    exact Bool.eq_false_iff.mpr fresh
  · -- The order rests, and subscribers are shown the book it is on.
    rename_i header stamped order run pre fresh _
    obtain ⟨rfl, admitted, saw⟩ := pre
    exact ⟨rfl, saw, admitted.of_symbol (OrderBook.symbol_setSide ..)⟩
  · -- Matching starts from that book, with one round per resting order and one more.
    rename_i header stamped order run pre fresh placed result published publishedRun
    obtain ⟨rfl, -, -⟩ := pre
    obtain ⟨sameBook, sees, admits⟩ := publishedRun
    rw [sameBook]
    exact ⟨trivial, wellFormed.placeOrder now checked isOrder (Bool.eq_false_iff.mpr fresh),
      .inr (Nat.lt_succ_self _), admits, sees⟩

/-- Deleting never stops: the order under the key comes off and is shown deleted, or, when
nothing rests there, the request itself is shown deleted. -/
theorem remove_calm {current : OrderBook ρ} (wellFormed : current.WellFormed)
    {event : MarketEvent} (allowed : allow (.delete event)) :
    ⦃fun run => ⌜run.book = current ∧ current.AdmitsAll allow run.pending ∧
        Sees run.audience current⌝⦄
      remove deliver event
    ⦃post⟨fun _ run => ⌜Sees run.audience run.book⌝, fun _ _ => ⌜False⌝⟩⦄ := by
  have takenSpec := fun (removed : MarketEvent)
      (found : (current.sideOf event.header.side).find? event.key = some removed) =>
    publish_calm calm asks watches (.taken found) wellFormed
      (current.setSide event.header.side ((current.sideOf event.header.side).erase event.key)) rfl
  have missedSpec := fun (missing : (current.sideOf event.header.side).find? event.key = none) =>
    publish_calm calm asks watches (.missed allowed missing) wellFormed current rfl
  -- Both publications show the request's own header deleted when nothing rests, so the
  -- delete that found its order is taken apart by hand.
  mvcgen [remove, book, modifyBook, log, note, missedSpec]
  · -- The order rests under the key: it comes off, and subscribers are shown it deleted.
    rename_i header run pre removed rest removal _
    obtain ⟨rfl, admitted, saw⟩ := pre
    obtain ⟨found, rfl⟩ := BookSide.remove?_eq_some_iff.mp removal
    mvcgen [takenSpec]
    · exact ⟨rfl, saw, admitted.of_symbol (OrderBook.symbol_setSide ..)⟩
    · intro sameBook sees _
      rw [sameBook]
      exact sees
  · -- Nothing rests under the key: the request itself is shown deleted.
    obtain ⟨rfl, -⟩ := ‹_ = current ∧ _›
    simpa [BookSide.remove?] using ‹BookSide.remove? _ _ = none›
  · obtain ⟨rfl, admitted, saw⟩ := ‹_ ∧ _›
    exact ⟨rfl, saw, admitted⟩
  · intro sameBook sees _
    rw [sameBook]
    exact sees

/-- Applying an outside trade stops only when the order it names is spent, and then before it
touches the book; otherwise the order is filled, the applied trade taped and shown. -/
theorem applyTrade_calm (now : Instant) {event : MarketEvent} {trade : Trade}
    (outside : Trade.ofEvent? event = some trade) {current : OrderBook ρ}
    (wellFormed : current.WellFormed) (pending : List BookRequest) :
    ⦃fun run => ⌜run.book = current ∧ run.pending = pending ∧ current.AdmitsAll allow pending ∧
        Sees run.audience current⌝⦄
      applyTrade deliver now trade
    ⦃post⟨fun _ run => ⌜Sees run.audience run.book⌝,
      fun _ run => ⌜run.book = current ∧ Sees run.audience current ∧
        current.TradesSpent (.add event)⌝⟩⦄ := by
  have fillSpec := fun (qty : Int64) (price : Decimal) =>
    Triple.and _
      (fillOrder_spec current pending wellFormed trade.header.side false trade.header.key qty price)
      (fillOrder_audience (Sees · current) trade.header.side false trade.header.key qty price)
  mvcgen [applyTrade, book, log, note, fillSpec]
  · -- The order the trade names does not rest: nothing changes.
    obtain ⟨rfl, -, -, saw⟩ := ‹_ = current ∧ _›
    exact saw
  -- The three ways of choosing the quantity leave the same three conditions.
  iterate 3
    · obtain ⟨rfl, rfl, -, saw⟩ := ‹_ = current ∧ _›
      exact ⟨⟨rfl, rfl⟩, saw⟩
    · -- The fill went through: the applied trade is taped and shown.
      rename_i price filled header applied run fills
      obtain ⟨⟨order, fillable, rfl, filledBook, samePending⟩, saw⟩ := fills
      obtain ⟨sameBook, -, admitted, -⟩ := ‹_ = current ∧ _›
      have rests := ‹BookSide.find? _ _ = some _›
      rw [sameBook] at rests
      obtain rfl := fillable.eq_of_find rests
      -- The trade is a fill only when the quantity is all the order had left.
      have published := wellFormed.applied_publication allow price now fillable (by
        first
          | exact fun _ => rfl
          | exact fun complete => absurd complete ‹_›)
      have recordSpec := Triple.and _ (record_spec σ run.book pending applied)
        (record_audience (Sees · current) applied)
      have publishSpec := publish_calm calm asks watches published wellFormed _ rfl
      mvcgen [recordSpec, publishSpec]
      · obtain ⟨⟨recordedBook, recordedPending⟩, stillSaw⟩ := ‹_ ∧ _›
        refine ⟨by rw [recordedBook, filledBook], stillSaw, ?_⟩
        rw [recordedPending]
        simpa using admitted
      · intro publishedBook sees _
        rw [publishedBook]
        exact sees
      · simp
    · -- The fill was refused: the order is spent, and nothing changed.
      rintro ⟨⟨stuck, sameBook, -⟩, saw⟩
      obtain ⟨startBook, -⟩ := ‹_ = current ∧ _›
      have rests := ‹BookSide.find? _ _ = some _›
      rw [startBook] at rests
      refine ⟨sameBook, saw, .of_stuck outside rests stuck ?_⟩
      first
        | exact .inl rfl
        | have inRange := ‹¬(_ || _) = true›
          simp only [Bool.or_eq_true, decide_eq_true_eq, not_or] at inRange
          exact .inr ⟨Int64.not_le.mp inRange.1, Int64.not_lt.mp inRange.2⟩

/-- One operation of the queue, on a well-formed book that admits it, stops only on an outside
trade for a spent order, and then leaves the book and the subscribers' state as they were;
otherwise what the subscribers see is carried to the book it leaves. -/
theorem perform_calm (now : Instant) (request : BookRequest) {current : OrderBook ρ}
    (wellFormed : current.WellFormed) (admits : current.Admits request) (allowed : allow request)
    (pending : List BookRequest) :
    ⦃fun run => ⌜run.book = current ∧ run.pending = pending ∧ current.AdmitsAll allow pending ∧
        Sees run.audience current⌝⦄
      perform deliver now request
    ⦃post⟨fun _ run => ⌜Sees run.audience run.book⌝,
      fun _ run => ⌜run.book = current ∧ Sees run.audience current ∧
        current.TradesSpent request⌝⟩⦄ := by
  cases request with
  | add event =>
    cases outside : Trade.ofEvent? event with
    | some trade =>
      have tradeSpec := applyTrade_calm calm asks watches now outside wellFormed pending
      simp only [perform, outside]
      mvcgen [tradeSpec]
    | none =>
      have placeSpec :=
        place_calm calm asks watches now wellFormed (admits event rfl) allowed outside
      simp only [perform, outside]
      mvcgen [placeSpec]
      · rename_i run pre
        obtain ⟨sameBook, rfl, admitted, saw⟩ := pre
        exact ⟨sameBook, admitted, saw⟩
      · exact id
  | delete event =>
    have removeSpec := remove_calm calm asks watches wellFormed allowed
    simp only [perform]
    mvcgen [removeSpec]
    · rename_i run pre
      obtain ⟨sameBook, rfl, admitted, saw⟩ := pre
      exact ⟨sameBook, admitted, saw⟩
    · exact id

/-- The same, read off the result of running the operation. -/
theorem perform_ends_calm (now : Instant) (request : BookRequest) (run : BookRun ρ σ)
    (wellFormed : run.book.WellFormed) (admits : run.book.Admits request) (allowed : allow request)
    (admitted : run.book.AdmitsAll allow run.pending) (saw : Sees run.audience run.book) :
    Ends (fun finished after => bif finished then Sees after.audience after.book
        else after.book = run.book ∧ Sees after.audience run.book ∧ run.book.TradesSpent request)
      (EStateM.run (perform deliver now request) run) := by
  apply EStateM.of_wp_run_eq rfl
  intro _
  exact perform_calm calm asks watches now request wellFormed admits allowed run.pending run
    ⟨rfl, rfl, admitted, saw⟩

/-- What a run of the queue leaves when calm subscribers watch `Sees`: a well-formed book that
they see, and, when it was stopped, an outside trade for a spent order on it. -/
theorem drain_calm (now : Instant) (budget : Nat) :
    ∀ run : BookRun ρ σ, run.book.WellFormed → run.book.AdmitsAll allow run.pending →
      Sees run.audience run.book →
      Ends (fun finished after => after.book.WellFormed ∧ Sees after.audience after.book ∧
          (finished = false → ∃ request, after.book.TradesSpent request))
        (EStateM.run (drain deliver now budget) run) := by
  induction budget with
  | zero =>
    intro run wellFormed _ saw
    exact ⟨wellFormed, saw, fun stopped => Bool.noConfusion stopped⟩
  | succ budget inductionHypothesis =>
    intro run wellFormed admitted saw
    cases queue : run.pending with
    | nil =>
      -- Nothing waits: the run ends at once.
      have returns : EStateM.run (drain deliver now (budget + 1)) run = .ok () run := by
        simp [drain, queue]
      rw [returns]
      exact ⟨wellFormed, saw, fun stopped => Bool.noConfusion stopped⟩
    | cons request rest =>
      rw [queue] at admitted
      obtain ⟨⟨admits, allowed⟩, restAdmitted⟩ := admitted.pop
      have performed := perform_ends asks now request { run with pending := rest } wellFormed
        admits restAdmitted
      have calmly := perform_ends_calm calm asks watches now request { run with pending := rest }
        wellFormed admits allowed restAdmitted saw
      simp only [drain, queue, EStateM.run_bind, EStateM.run_get, EStateM.run_modify]
      generalize EStateM.run (perform deliver now request) { run with pending := rest } = result
        at performed calmly ⊢
      cases result with
      | ok _ after =>
        -- The operation returned: the rest of the queue runs on from the book it left.
        obtain ⟨performs, afterAdmitted⟩ := performed
        exact inductionHypothesis after (performs.wellFormed wellFormed admits)
          (afterAdmitted.of_symbol performs.symbol_strategy.1) calmly
      | error _ after =>
        -- Only an outside trade for a spent order stops it, before the book changed.
        obtain ⟨sameBook, stillSaw, spent⟩ := calmly
        have sameBook : after.book = run.book := sameBook
        exact ⟨sameBook ▸ wellFormed, sameBook ▸ stillSaw, fun _ => ⟨request, sameBook ▸ spent⟩⟩

/-- One run of the book, started by an operation the book admits and `allow` lets through. -/
theorem run_ends_calm (budget : Nat) (now : Instant) (first : BookRequest) (run : BookRun ρ σ)
    (wellFormed : run.book.WellFormed) (admits : run.book.Admits first) (allowed : allow first)
    (saw : Sees run.audience run.book) :
    Ends (fun finished after => after.book.WellFormed ∧ Sees after.audience after.book ∧
        (finished = false → ∃ request, after.book.TradesSpent request))
      (EStateM.run (BookM.run deliver budget now first) run) := by
  have drained := drain_calm calm asks watches now (budget + 1) { run with pending := [first] }
    wellFormed (fun request member => by
      rw [List.mem_singleton.mp member]
      exact ⟨admits, allowed⟩) saw
  simp only [BookM.run, book, note, EStateM.run_bind, EStateM.run_modify, EStateM.run_get,
    EStateM.run_pure]
  generalize EStateM.run (drain deliver now (budget + 1)) { run with pending := [first] } = result
    at drained ⊢
  cases result <;> exact drained

end Steps

end BookM

/-- A change of subscribers that a call makes keeps `Sees`. -/
def BookCall.Keeps (Sees : σ → OrderBook ρ → Prop) : BookCall ρ → Prop
  | .subscribe name role =>
    ∀ audience book, Sees audience book → Sees audience (book.subscribe name role).1
  | .unsubscribe id => ∀ audience book, Sees audience book → Sees audience (book.unsubscribe id)
  | _ => True

/-- One call that `admits` lets through, whether it returned or was stopped. -/
def BookRun.Called (deliver : Delivery ρ σ) (admits : BookCall ρ → BookRun ρ σ → Prop)
    (run after : BookRun ρ σ) : Prop :=
  ∃ call, admits call run ∧ after = run.after (call.exec deliver)

section Calls

variable {deliver : Delivery ρ σ} {allow : BookRequest → Prop} {Sees : σ → OrderBook ρ → Prop}
  (calm : deliver.Calm) (asks : deliver.Asks allow) (watches : deliver.Watches allow Sees)
include calm asks watches

/-- A call on a well-formed book, whose operation `allow` lets through and whose change of
subscribers keeps `Sees`, leaves a well-formed book that calm subscribers watching `Sees` still
see; it stops only on an outside trade for a spent order. -/
theorem BookCall.exec_calm (call : BookCall ρ) (run : BookRun ρ σ)
    (wellFormed : run.book.WellFormed) (allowed : call.Allowed allow) (keeps : call.Keeps Sees)
    (saw : Sees run.audience run.book) :
    BookM.Ends (fun finished after => after.book.WellFormed ∧ Sees after.audience after.book ∧
        (finished = false → ∃ request, after.book.TradesSpent request))
      (EStateM.run (call.exec deliver) run) := by
  cases call with
  | add budget now event =>
    cases checked : run.book.check event with
    | error refusal =>
      -- The book refuses the event: nothing happens.
      simp [BookCall.exec, BookM.add, BookM.book, checked]
      exact ⟨wellFormed, saw, fun stopped => Bool.noConfusion stopped⟩
    | ok =>
      by_cases duplicate : event.isOrder = true ∧
          (run.book.sideOf event.header.side).contains event.key = true
      · simp [BookCall.exec, BookM.add, BookM.book, checked, duplicate]
        exact ⟨wellFormed, saw, fun stopped => Bool.noConfusion stopped⟩
      · have ran := BookM.run_ends_calm calm asks watches budget now (.add event) run wellFormed
          (OrderBook.admits_add checked) allowed saw
        simp [BookCall.exec, BookM.add, BookM.book, checked, duplicate]
        exact ran
  | delete budget now event =>
    have ran := BookM.run_ends_calm calm asks watches budget now (.delete event) run wellFormed
      (run.book.admits_delete event) allowed saw
    simp [BookCall.exec, BookM.delete, BookM.book]
    exact ran
  | subscribe name role =>
    simp [BookCall.exec, BookM.modifyBook]
    exact ⟨wellFormed.resubscribe _ _, keeps run.audience run.book saw,
      fun stopped => Bool.noConfusion stopped⟩
  | unsubscribe id =>
    simp [BookCall.exec, BookM.modifyBook]
    exact ⟨wellFormed.resubscribe _ _, keeps run.audience run.book saw,
      fun stopped => Bool.noConfusion stopped⟩

variable {admits : BookCall ρ → BookRun ρ σ → Prop}

/-- Along calls that `admits` lets through, from a well-formed book its calm subscribers see,
the book stays well formed and the subscribers keep seeing it, whether each call returned or
was stopped. -/
theorem BookRun.Called.sees (allowed : ∀ call run, admits call run → call.Allowed allow)
    (keeps : ∀ call run, admits call run → call.Keeps Sees) {start run : BookRun ρ σ}
    (calls : Relation.ReflTransGen (BookRun.Called deliver admits) start run)
    (wellFormed : start.book.WellFormed) (saw : Sees start.audience start.book) :
    run.book.WellFormed ∧ Sees run.audience run.book := by
  induction calls with
  | refl => exact ⟨wellFormed, saw⟩
  | tail _ called inductionHypothesis =>
    obtain ⟨call, admitted, rfl⟩ := called
    have ends := call.exec_calm calm asks watches _ inductionHypothesis.1
      (allowed call _ admitted) (keeps call _ admitted) inductionHypothesis.2
    unfold BookRun.after
    generalize EStateM.run (call.exec deliver) _ = result at ends ⊢
    cases result <;> exact ⟨ends.1, ends.2.1⟩

variable {symbol : String} {strategy : ExecutionStrategy} {run : BookRun ρ σ}
  {history : List Placement}

/-- On every run a book reaches from empty, calm subscribers watching `Sees` see the book,
when they see every empty book. -/
theorem Reachable.sees (allowed : ∀ call run, admits call run → call.Allowed allow)
    (keeps : ∀ call run, admits call run → call.Keeps Sees)
    (initial : ∀ audience, Sees audience (OrderBook.empty symbol strategy))
    (reached : Reachable deliver symbol strategy admits run history) :
    run.book.WellFormed ∧ Sees run.audience run.book := by
  induction reached with
  | start audience => exact ⟨.empty symbol strategy, initial audience⟩
  | @call run history call _ admitted inductionHypothesis =>
    have ends := call.exec_calm calm asks watches run inductionHypothesis.1
      (allowed call run admitted) (keeps call run admitted) inductionHypothesis.2
    unfold BookRun.after
    generalize EStateM.run (call.exec deliver) run = result at ends ⊢
    cases result <;> exact ⟨ends.1, ends.2.1⟩

end Calls

end Bourse
