import Bourse.Proofs.Replay.Feed
import Bourse.Replay.Simulator

/-!
# The match-credit ledger of a replay

A replay applies archive rows to a book. A match row first takes what it can from the credit the
engine earned its order (the quantity the book already traded between two replayed orders), and
only the rest is applied; a new, deleted or expired order restarts its credit.

Each row settles the credits first (`ReplayRow.settle`) and then makes at most one call on the
book (`ReplayRow.call`); that is all a row does to the book and its subscribers
(`Replay.applyRow_run`). With a host that keeps its laws (`ReplayHost.Lawful`) each order's
credit then observes exactly the trades the call put on the tape (`Replay.applyRow_keeps`).
-/

namespace Bourse

variable {ρ σ : Type}

/-! ## What a row does -/

namespace ReplayRow

/-- Whether the row is a match, partial or full. -/
def isMatch (row : ReplayRow) : Bool :=
  row.action == ReplayAction.partialMatch || row.action == ReplayAction.fullMatch

/-- Whether the row deletes its order, as a delete or an expiry. -/
def removes (row : ReplayRow) : Bool :=
  row.action == ReplayAction.delete || row.action == ReplayAction.expire

/-- Whether the row restarts the credit of its order: a row that is neither a match nor a
transaction limit, for an order the replay can build. -/
def restarts (row : ReplayRow) (config : SimulatorConfig) : Bool :=
  !(row.action == ReplayAction.transactionLimit) && !row.isMatch &&
    (MarketEvent.newOrder (Replay.rowHeader config row)).toBool

/-- What the row takes from the credit of order `orderId`: a match takes from its own order's
credit, any other row takes nothing. -/
def taken (row : ReplayRow) (credits : MatchCredits) (orderId : String) : Int64 :=
  if row.isMatch ∧ row.orderId = orderId then (credits.take orderId row.qty).1 else 0

/-- The credits once the row has settled them, before it calls the book: a match takes from its
order's credit, a row that restarts its order's credit drops it. -/
def settle (row : ReplayRow) (config : SimulatorConfig) (credits : MatchCredits) : MatchCredits :=
  if row.isMatch then (credits.take row.orderId row.qty).2
  else if row.restarts config then credits.drop row.orderId
  else credits

/-- The trade a match row reports for the quantity `qty` it applies. -/
def matchEvent (row : ReplayRow) (config : SimulatorConfig) (qty : Int64) : MarketEvent :=
  let header := { Replay.rowHeader config row with cumQty := qty, avgPrice := row.price }
  let execution : Execution := { Execution.empty with execQty := qty, execPrice := row.price }
  if row.action == ReplayAction.fullMatch then MarketEvent.newFill header execution
  else MarketEvent.newPartialFill header execution

/-- The call the row makes on the book at time `now`, with the credits it found: a delete of its
order, an add of its order or of the trade a match applies, or none. -/
def call (row : ReplayRow) (config : SimulatorConfig) (credits : MatchCredits) (now : Instant) :
    Option (BookCall ρ) :=
  if row.action == ReplayAction.transactionLimit then none
  else if row.removes then
    (MarketEvent.newOrder (Replay.rowHeader config row)).toOption.map
      (BookCall.delete queueLimit now)
  else if row.isMatch then
    let qty := row.qty - (credits.take row.orderId row.qty).1
    if qty == 0 then none else some (.add queueLimit now (row.matchEvent config qty))
  else
    (MarketEvent.newOrder (Replay.rowHeader config row)).toOption.map (BookCall.add queueLimit now)

/-- A transaction limit is no match. -/
theorem isMatch_of_limit {row : ReplayRow}
    (limit : (row.action == ReplayAction.transactionLimit) = true) : row.isMatch = false := by
  rw [isMatch, beq_iff_eq.mp limit]
  decide

/-- A delete or an expiry is no match. -/
theorem isMatch_of_removes {row : ReplayRow} (removal : row.removes = true) :
    row.isMatch = false := by
  simp only [removes, Bool.or_eq_true, beq_iff_eq] at removal
  rcases removal with action | action <;> (rw [isMatch, action]; decide)

/-- A match applies what is left of its quantity once its order's credit is used, if anything
is left. -/
theorem call_of_isMatch {row : ReplayRow} (matched : row.isMatch = true) (config : SimulatorConfig)
    (credits : MatchCredits) (now : Instant) :
    (row.call config credits now : Option (BookCall ρ)) =
      if row.qty - (credits.take row.orderId row.qty).1 == 0 then none
      else some (.add queueLimit now
        (row.matchEvent config (row.qty - (credits.take row.orderId row.qty).1))) := by
  have notLimit : (row.action == ReplayAction.transactionLimit) = false :=
    Bool.eq_false_iff.mpr fun limit => absurd (isMatch_of_limit limit) (by simp [matched])
  have notRemoval : row.removes = false :=
    Bool.eq_false_iff.mpr fun removal => absurd (isMatch_of_removes removal) (by simp [matched])
  simp only [call, notLimit, notRemoval, matched, Bool.false_eq_true, if_false, if_true]

/-- A partial match reports a partial fill of the row's order, on the row's side, of the
quantity it applies. -/
theorem ofEvent_matchEvent {row : ReplayRow} (partialRow : row.action = ReplayAction.partialMatch)
    (config : SimulatorConfig) (qty : Int64) :
    Trade.ofEvent? (row.matchEvent config qty) =
      some ⟨false, { Replay.rowHeader config row with cumQty := qty, avgPrice := row.price },
        { Execution.empty with execQty := qty, execPrice := row.price }⟩ := by
  have notFull : (row.action == ReplayAction.fullMatch) = false := by
    rw [partialRow]
    decide
  simp [matchEvent, notFull, MarketEvent.newPartialFill, Trade.ofEvent?]

/-- The call a row makes is an add, or a delete of an order the replay built. -/
theorem call_cases {row : ReplayRow} {config : SimulatorConfig} {credits : MatchCredits}
    {now : Instant} {call : BookCall ρ} (made : row.call config credits now = some call) :
    (∃ event, call = .add queueLimit now event) ∨
      ∃ event, MarketEvent.newOrder (Replay.rowHeader config row) = .ok event ∧
        call = .delete queueLimit now event := by
  unfold ReplayRow.call at made
  split at made
  · exact absurd made (Option.some_ne_none _).symm
  · split at made
    · cases built : MarketEvent.newOrder (Replay.rowHeader config row) with
      | error refusal => simp [built, Except.toOption] at made
      | ok event =>
        simp only [built, Except.toOption, Option.map_some, Option.some.injEq] at made
        exact .inr ⟨event, rfl, made.symm⟩
    · split at made
      · dsimp only at made
        split at made
        · exact absurd made (Option.some_ne_none _).symm
        · exact .inl ⟨_, (Option.some.inj made).symm⟩
      · cases built : MarketEvent.newOrder (Replay.rowHeader config row) with
        | error refusal => simp [built, Except.toOption] at made
        | ok event =>
          simp only [built, Except.toOption, Option.map_some, Option.some.injEq] at made
          exact .inl ⟨event, made.symm⟩

end ReplayRow

/-- The orders the replay builds are orders, never trades. -/
theorem MarketEvent.isOrder_of_newOrder {header : Header} {event : MarketEvent}
    (built : MarketEvent.newOrder header = .ok event) : event.isOrder = true := by
  unfold MarketEvent.newOrder at built
  split at built
  · cases built
    rfl
  · split at built
    · cases built
      rfl
    · cases built

/-! ## The replay's state, step by step -/

section Host

variable [ReplayHost ρ σ]

/-- The credits a replay keeps. -/
def Replay.credits (replay : Replay ρ σ) : MatchCredits := ReplayHost.credits replay.run.audience

/-- A book at work with other credits kept. -/
def BookRun.withCredits (run : BookRun ρ σ) (credits : MatchCredits) : BookRun ρ σ :=
  { run with audience := ReplayHost.withCredits run.audience credits }

@[simp] theorem BookRun.book_withCredits (run : BookRun ρ σ) (credits : MatchCredits) :
    (run.withCredits credits).book = run.book := rfl

namespace Replay

omit [ReplayHost ρ σ] in
theorem onBook_state {α : Type} (action : BookM ρ σ α) (replay : Replay ρ σ) :
    ((onBook action).run replay).2 = { replay with run := replay.run.after action } := by
  simp only [onBook, BookRun.after, StateT.run_bind, StateT.run_get, pure_bind]
  generalize EStateM.run action replay.run = result
  cases result <;> rfl

omit [ReplayHost ρ σ] in
/-- What a replay computation leaves, when it runs after another, is what it leaves of the
state the first one left. -/
@[simp] theorem state_bind {α β : Type} (first : Id α) (next : α → Id (β × Replay ρ σ)) :
    (first >>= next).2 = (next first).2 := rfl

omit [ReplayHost ρ σ] in
@[simp] theorem state_pure {α : Type} (outcome : α × Replay ρ σ) :
    (pure outcome : Id (α × Replay ρ σ)).2 = outcome.2 := rfl

omit [ReplayHost ρ σ] in
@[simp] theorem value_pure {α : Type} (outcome : α × Replay ρ σ) :
    (pure outcome : Id (α × Replay ρ σ)).1 = outcome.1 := rfl

omit [ReplayHost ρ σ] in
/-- A call whose answer is dropped leaves the run its computation leaves. -/
theorem after_discard {α : Type} (run : BookRun ρ σ) (action : BookM ρ σ α) :
    run.after (do let _ ← action) = run.after action := by
  simp only [BookRun.after, EStateM.run_bind]
  generalize EStateM.run action run = result
  cases result <;> rfl

/-- A row applied to a replay: the simulator notes its action; the row settles the credits and
makes its call, if any, on the book at the replay's time. A row that neither matches nor
restarts a credit keeps the credits as they were. -/
theorem applyRow_run (lens : ∀ audience : σ,
      ReplayHost.withCredits audience (ReplayHost.credits audience) = audience)
    (row : ReplayRow) (replay : Replay ρ σ) :
    ((applyRow row).run replay).2 =
      { replay with
        simulator := { replay.simulator with
          actions := replay.simulator.actions.push row.action.name }
        run :=
          match row.call replay.simulator.config replay.credits replay.now with
          | none => replay.run.withCredits (row.settle replay.simulator.config replay.credits)
          | some call => (replay.run.withCredits
              (row.settle replay.simulator.config replay.credits)).after
                (call.exec ReplayHost.deliver) } := by
  -- The row's own tests, in the order it makes them; each branch is then run as written.
  by_cases limit : (row.action == ReplayAction.transactionLimit) = true
  · have noMatch := ReplayRow.isMatch_of_limit limit
    simp only [applyRow, modifySimulator, ReplayRow.call, ReplayRow.settle, ReplayRow.restarts,
      limit, noMatch, lens, BookRun.withCredits, Replay.credits, StateT.run_bind, StateT.run_modify,
      StateT.run_get, StateT.run_pure, state_bind, state_pure, if_true, Bool.false_eq_true,
      if_false, Bool.not_true, Bool.false_and]
  have notLimit : (row.action == ReplayAction.transactionLimit) = false := by simpa using limit
  by_cases removal : row.removes = true
  · have noMatch := ReplayRow.isMatch_of_removes removal
    have removes := removal
    simp only [ReplayRow.removes] at removes
    cases built : MarketEvent.newOrder (rowHeader replay.simulator.config row) with
    | error refusal =>
      simp only [applyRow, modifySimulator, ReplayRow.call, ReplayRow.settle, ReplayRow.restarts,
        notLimit, removes, removal, noMatch, built, lens, BookRun.withCredits, Replay.credits,
        Except.toOption, Except.toBool, StateT.run_bind, StateT.run_modify, StateT.run_get,
        StateT.run_pure, state_bind, state_pure, value_pure, if_true, if_false, Bool.false_eq_true,
        Bool.not_false, Bool.true_and, Bool.and_false, Option.map_none]
    | ok event =>
      simp only [applyRow, modifySimulator, modifyCredits, bookDelete, ReplayRow.call,
        ReplayRow.settle, ReplayRow.restarts, notLimit, removes, removal, noMatch, built,
        onBook_state, BookRun.withCredits, Replay.credits, BookCall.exec, Replay.now,
        Except.toOption, Except.toBool, StateT.run_bind, StateT.run_modify, StateT.run_get,
        StateT.run_pure, state_bind, state_pure, value_pure, if_false, if_true, Bool.false_eq_true,
        Bool.not_false, Bool.true_and, Option.map_some, after_discard]
  have notRemoval : (row.action == ReplayAction.delete || row.action == ReplayAction.expire) =
      false := by simpa [ReplayRow.removes] using removal
  by_cases matching : row.isMatch = true
  · have matched := matching
    simp only [ReplayRow.isMatch] at matched
    by_cases spent : (row.qty - (replay.credits.take row.orderId row.qty).1 == 0) = true
    · simp only [Replay.credits] at spent
      simp only [applyRow, modifySimulator, modifyCredits, ReplayRow.call, ReplayRow.settle,
        notLimit, notRemoval, removal, matched, matching, spent, BookRun.withCredits,
        Replay.credits, StateT.run_bind, StateT.run_modify, StateT.run_get, StateT.run_pure,
        state_bind, state_pure, value_pure, if_false, if_true, Bool.false_eq_true]
    · simp only [Replay.credits] at spent
      simp only [applyRow, modifySimulator, modifyCredits, bookAdd, ReplayRow.call,
        ReplayRow.settle, ReplayRow.matchEvent, notLimit, notRemoval, removal, matched, matching,
        spent, onBook_state, BookRun.withCredits, Replay.credits, BookCall.exec, Replay.now,
        StateT.run_bind, StateT.run_modify, StateT.run_get, StateT.run_pure, state_bind,
        state_pure, value_pure, if_false, if_true, Bool.false_eq_true, after_discard]
  · have notMatching : (row.action == ReplayAction.partialMatch ||
        row.action == ReplayAction.fullMatch) = false := by simpa [ReplayRow.isMatch] using matching
    cases built : MarketEvent.newOrder (rowHeader replay.simulator.config row) with
    | error refusal =>
      simp only [applyRow, modifySimulator, ReplayRow.call, ReplayRow.settle, ReplayRow.restarts,
        notLimit, notRemoval, removal, notMatching, matching, built, lens, BookRun.withCredits,
        Replay.credits, Except.toOption, Except.toBool, StateT.run_bind, StateT.run_modify,
        StateT.run_get, StateT.run_pure, state_bind, state_pure, value_pure, if_false,
        Bool.false_eq_true, Bool.not_false, Bool.true_and, Bool.and_false, Option.map_none]
    | ok event =>
      simp only [applyRow, modifySimulator, modifyCredits, bookAdd, ReplayRow.call,
        ReplayRow.settle, ReplayRow.restarts, notLimit, notRemoval, removal, notMatching, matching,
        built, onBook_state, BookRun.withCredits, Replay.credits, BookCall.exec, Replay.now,
        Except.toOption, Except.toBool, StateT.run_bind, StateT.run_modify, StateT.run_get,
        StateT.run_pure, state_bind, state_pure, value_pure, if_false, if_true,
        Bool.false_eq_true, Bool.not_false, Bool.true_and, Option.map_some, after_discard]

end Replay

end Host

/-! ## Hosts that keep the credits -/

section Lawful

variable [ReplayHost ρ σ] [DecidableEq ρ] {owner : σ → String}

/-- Where a host keeps the credits: with its creditor, for the owner `owner` names. -/
def ReplayHost.creditView (owner : σ → String) : CreditView ρ σ :=
  ⟨ReplayHost.creditor σ, ReplayHost.credits, owner⟩

variable (ρ σ) in
/-- A host keeps the credits of a replay for the owner `owner` names when its subscribers only
listen, its creditor observes every event and the others leave the credits alone, and the
credits read back what was set and stay when the time moves; so does the owner. -/
structure ReplayHost.Lawful (owner : σ → String) : Prop where
  listens : (ReplayHost.deliver : Delivery ρ σ).OnlyListens
  keeps : (ReplayHost.deliver : Delivery ρ σ).KeepsCredits (ReplayHost.creditView owner)
  credits_withCredits : ∀ (audience : σ) credits,
    ReplayHost.credits (ReplayHost.withCredits audience credits) = credits
  withCredits_credits : ∀ audience : σ,
    ReplayHost.withCredits audience (ReplayHost.credits audience) = audience
  owner_withCredits : ∀ (audience : σ) credits,
    owner (ReplayHost.withCredits audience credits) = owner audience
  credits_atTime : ∀ (audience : σ) moment,
    ReplayHost.credits (ReplayHost.atTime audience moment) = ReplayHost.credits audience
  owner_atTime : ∀ (audience : σ) moment, owner (ReplayHost.atTime audience moment) = owner audience

/-- What a replay keeps between rows: a well-formed book on which the creditor subscribes once,
and credits kept for the server that owns the replayed orders. -/
structure Replay.Keeping (owner : σ → String) (replay : Replay ρ σ) : Prop where
  wellFormed : replay.book.WellFormed
  owned : owner replay.run.audience = replay.simulator.config.server
  once : (ReplayHost.creditView owner).creditors replay.book.subscriptions = 1

variable (laws : ReplayHost.Lawful ρ σ owner)
include laws

/-- One row keeps what a replay keeps, leaves what it replays alone, and grows the tape by the
trades that the credit of order `orderId`, as the row settled it, then observed. -/
theorem Replay.applyRow_keeps (row : ReplayRow) (orderId : String) {replay : Replay ρ σ}
    (keeping : replay.Keeping owner) :
    (((applyRow row).run replay).2).Keeping owner ∧
      ((applyRow row).run replay).2.simulator.config = replay.simulator.config ∧
      ∃ later, ((applyRow row).run replay).2.book.tape.toList = replay.book.tape.toList ++ later ∧
        (((applyRow row).run replay).2.credits).creditOf orderId =
          ((row.settle replay.simulator.config replay.credits).observeAll
            replay.simulator.config.server later).creditOf orderId := by
  rw [applyRow_run laws.withCredits_credits]
  set settled := replay.run.withCredits (row.settle replay.simulator.config replay.credits)
  have settledCredits : ReplayHost.credits settled.audience =
      row.settle replay.simulator.config replay.credits := laws.credits_withCredits _ _
  have settledOwner : owner settled.audience = replay.simulator.config.server :=
    (laws.owner_withCredits _ _).trans keeping.owned
  cases made : row.call replay.simulator.config replay.credits replay.now with
  | none =>
    -- No call: only the credits were settled.
    refine ⟨⟨keeping.wellFormed, settledOwner, keeping.once⟩, rfl, [], by simp [Replay.book, settled], ?_⟩
    simp [Replay.credits, settledCredits, MatchCredits.observeAll]
  | some call =>
    -- The call keeps the credits following the book, from the settled credits on.
    have allowed : call.Allowed
        (BookRequest.DeletesNoTradeOfOrder replay.simulator.config.server orderId) := by
      rcases ReplayRow.call_cases made with ⟨event, rfl⟩ | ⟨event, built, rfl⟩
      · trivial
      · exact fun _ _ =>
          MarketEvent.ofEvent?_eq_none_of_isOrder (MarketEvent.isOrder_of_newOrder built)
    have operation : call.Keeps (CreditsFollow (ReplayHost.creditView owner)
        replay.simulator.config.server orderId (ReplayHost.credits settled.audience)
        settled.book.tape.toList) := by
      rcases ReplayRow.call_cases made with ⟨event, rfl⟩ | ⟨event, -, rfl⟩ <;> trivial
    obtain ⟨wellFormed, owned, once, later, taped, credited⟩ :=
      BookCall.exec_keeps_credits laws.listens laws.keeps operation allowed keeping.wellFormed
        settledOwner keeping.once
    refine ⟨⟨wellFormed, owned, once⟩, rfl, later, taped, ?_⟩
    rw [Replay.credits, ← settledCredits]
    exact credited

/-- A partial match that asks for a quantity that is not negative takes something off its
order, and no more than what is left of its quantity once the order's credit is used: the book
never executes more than the archive reports beyond what the engine already executed. -/
theorem Replay.applyRow_partialMatch_within (row : ReplayRow) {replay : Replay ρ σ}
    (keeping : replay.Keeping owner) (partialRow : row.action = ReplayAction.partialMatch)
    (asked : 0 ≤ row.qty) :
    (((applyRow row).run replay).2.book.remainingOf row.side
          ⟨replay.simulator.config.server, row.orderId⟩).toInt ≤
        (replay.book.remainingOf row.side ⟨replay.simulator.config.server, row.orderId⟩).toInt ∧
      (replay.book.remainingOf row.side ⟨replay.simulator.config.server, row.orderId⟩).toInt -
          (((applyRow row).run replay).2.book.remainingOf row.side
            ⟨replay.simulator.config.server, row.orderId⟩).toInt ≤
        (row.qty - (replay.credits.take row.orderId row.qty).1).toInt := by
  obtain ⟨usedNonneg, usedBelow⟩ := replay.credits.take_within row.orderId row.qty asked
  have exact := replay.credits.toInt_sub_take row.orderId row.qty asked
  rw [Int64.le_iff_toInt_le] at usedNonneg usedBelow
  simp only [Int64.toInt_zero] at usedNonneg
  -- What the row applies is its quantity less the credit used, which is never negative.
  have applies : 0 ≤ (row.qty - (replay.credits.take row.orderId row.qty).1).toInt := by
    rw [exact]
    omega
  have stays : (replay.book.remainingOf row.side ⟨replay.simulator.config.server, row.orderId⟩).toInt ≤
        (replay.book.remainingOf row.side ⟨replay.simulator.config.server, row.orderId⟩).toInt ∧
      (replay.book.remainingOf row.side ⟨replay.simulator.config.server, row.orderId⟩).toInt -
          (replay.book.remainingOf row.side ⟨replay.simulator.config.server, row.orderId⟩).toInt ≤
        (row.qty - (replay.credits.take row.orderId row.qty).1).toInt := by
    omega
  have matched : row.isMatch = true := by simp [ReplayRow.isMatch, partialRow]
  rw [applyRow_run laws.withCredits_credits, ReplayRow.call_of_isMatch matched]
  by_cases spent : (row.qty - (replay.credits.take row.orderId row.qty).1 == 0) = true
  · -- Nothing is left to apply: the book stays.
    simp only [spent, if_true]
    exact stays
  · -- What is left is applied to the order as an outside partial fill.
    simp only [spent, Bool.false_eq_true, if_false, BookCall.exec, after_discard]
    have positive : 0 < row.qty - (replay.credits.take row.orderId row.qty).1 := by
      have different : row.qty - (replay.credits.take row.orderId row.qty).1 ≠ 0 := by
        simpa using spent
      have nonzero := mt Int64.toInt_inj.mp different
      rw [Int64.lt_iff_toInt_lt]
      simp only [Int64.toInt_zero] at nonzero ⊢
      omega
    rcases BookM.add_outside laws.listens queueLimit replay.now
        (ReplayRow.ofEvent_matchEvent partialRow replay.simulator.config _)
        (replay.run.withCredits (row.settle replay.simulator.config replay.credits))
        keeping.wellFormed with untouched | applied
    · simp only [Replay.book] at stays ⊢
      rw [untouched]
      exact stays
    · exact applied.remaining_within keeping.wellFormed rfl positive

end Lawful

end Bourse
