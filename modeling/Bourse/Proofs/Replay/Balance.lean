import Bourse.Proofs.Replay.Ledger

/-!
# The match credits of a replay balance

Between two of its states a replay applies a row, moves its clock, changes its own bookkeeping,
or another client's order or cancel reaches the book (`ReplayStep`). For one order id, the count
behind its credit (`CreditCount`) holds what archive matches took of the credit since the
order's last new, deleted or expired row, and where on the tape the trades after that row start.

Over every run of such steps in which the order's own matches ask for quantities that are not
negative and no cancel hands a trade of the order to the book (`ReplayStep.Admissible`; other
orders' rows and cancels may be anything), the credit stays balanced (`Replay.Balanced`): while
what the trades since the count's start earn the order stays in range, the credit is not
negative, and the credit and what was taken of it add up to exactly what those trades earned. Each step keeps the balance (`Replay.Balanced.step`), so every
run does (`Replay.balanced_runSteps`).

So a partial match of the order, applied after any such run, takes no more of the credit than
the engine executed between replayed orders and has not yet offset, and lowers what is left of
the order by no more than its quantity less what it took (`Replay.credits_balance`).
-/

namespace Bourse

variable {ρ σ : Type}

/-! ## Earned credit in integers -/

/-- What a list of trades earns the credit of order `orderId`, counted in integers. -/
def Trade.credited (owner orderId : String) : List Trade → Int
  | [] => 0
  | trade :: rest => (trade.creditFor owner orderId).toInt + credited owner orderId rest

namespace Trade

variable {owner orderId : String}

@[simp] theorem credited_nil : credited owner orderId [] = 0 := rfl

@[simp] theorem credited_cons (trade : Trade) (rest : List Trade) :
    credited owner orderId (trade :: rest) =
      (trade.creditFor owner orderId).toInt + credited owner orderId rest := rfl

theorem credited_append (first second : List Trade) :
    credited owner orderId (first ++ second) =
      credited owner orderId first + credited owner orderId second := by
  induction first with
  | nil => simp
  | cons trade rest inductionHypothesis =>
    rw [List.cons_append, credited_cons, credited_cons, inductionHypothesis, Int.add_assoc]

theorem toInt_creditFor_nonneg (trade : Trade) (owner orderId : String) :
    0 ≤ (trade.creditFor owner orderId).toInt := by
  have earns : 0 ≤ trade.creditFor owner orderId := trade.creditFor_nonneg
  simpa using Int64.le_iff_toInt_le.mp earns

theorem credited_nonneg (owner orderId : String) (trades : List Trade) :
    0 ≤ credited owner orderId trades := by
  induction trades with
  | nil => simp
  | cons trade rest inductionHypothesis =>
    have earns := trade.toInt_creditFor_nonneg owner orderId
    rw [credited_cons]
    omega

/-- While it stays in range, what trades earn is the same in 64-bit integers as in integers. -/
theorem toInt_earned {trades : List Trade} (fits : credited owner orderId trades < 2 ^ 63) :
    (earned owner orderId trades).toInt = credited owner orderId trades := by
  induction trades with
  | nil => simp
  | cons trade rest inductionHypothesis =>
    -- Every trade earns something not negative, so the rest stays in range too.
    have earns := trade.toInt_creditFor_nonneg owner orderId
    have restNonneg := credited_nonneg owner orderId rest
    rw [credited_cons] at fits
    rw [earned_cons, Int64.toInt_add_of_bounds _ _ (by rw [inductionHypothesis (by omega)]; omega)
      (by rw [inductionHypothesis (by omega)]; omega), inductionHypothesis (by omega), credited_cons]

end Trade

/-- Observing trades adds what they earn to a credit that is not negative, exactly, while the
sum stays in range. -/
theorem MatchCredits.toInt_creditOf_observeAll (credits : MatchCredits) (owner orderId : String)
    (trades : List Trade) (held : 0 ≤ (credits.creditOf orderId).toInt)
    (fits : (credits.creditOf orderId).toInt + Trade.credited owner orderId trades < 2 ^ 63) :
    ((credits.observeAll owner trades).creditOf orderId).toInt =
      (credits.creditOf orderId).toInt + Trade.credited owner orderId trades := by
  have earnedNonneg := Trade.credited_nonneg owner orderId trades
  have exact : (Trade.earned owner orderId trades).toInt = Trade.credited owner orderId trades :=
    Trade.toInt_earned (by omega)
  rw [creditOf_observeAll, Int64.toInt_add_of_bounds _ _ (by omega) (by omega), exact]

/-! ## What a row does to one order's credit -/

namespace ReplayRow

variable {row : ReplayRow} {config : SimulatorConfig} {credits : MatchCredits} {orderId : String}

/-- A row that restarts its order's credit is no match. -/
theorem isMatch_of_restarts (restarting : row.restarts config = true) : row.isMatch = false := by
  simp only [restarts, Bool.and_eq_true, Bool.not_eq_true'] at restarting
  exact restarting.1.2

/-- A row that restarts its order's credit clears it. -/
theorem creditOf_settle_of_restarts (restarting : row.restarts config = true) :
    (row.settle config credits).creditOf row.orderId = 0 := by
  simp [settle, isMatch_of_restarts restarting, restarting]

/-- A row that, as a match of order `orderId`, asks for no negative quantity takes nothing
negative of that order's credit. -/
theorem taken_nonneg (asked : row.isMatch = true → row.orderId = orderId → 0 ≤ row.qty) :
    0 ≤ (row.taken credits orderId).toInt := by
  unfold taken
  split
  · rename_i matchedHere
    have within := (credits.take_within orderId row.qty (asked matchedHere.1 matchedHere.2)).1
    simpa using Int64.le_iff_toInt_le.mp within
  · simp

/-- A row that does not restart the credit of `orderId` moves it, exactly, into what the row
takes; a credit that is not negative stays so. -/
theorem settle_balances (asked : row.isMatch = true → row.orderId = orderId → 0 ≤ row.qty)
    (kept : (row.restarts config && row.orderId == orderId) = false)
    (held : 0 ≤ (credits.creditOf orderId).toInt) :
    0 ≤ ((row.settle config credits).creditOf orderId).toInt ∧
      ((row.settle config credits).creditOf orderId).toInt + (row.taken credits orderId).toInt =
        (credits.creditOf orderId).toInt := by
  by_cases matching : row.isMatch = true
  · by_cases own : row.orderId = orderId
    · -- The match takes from this very credit.
      subst own
      have creditNonneg : 0 ≤ credits.creditOf row.orderId :=
        Int64.le_iff_toInt_le.mpr (by simpa using held)
      have ledger := credits.toInt_take_ledger row.orderId row.qty (asked matching rfl)
        creditNonneg
      have left := Int64.le_iff_toInt_le.mp
        (credits.take_keeps_nonneg row.orderId row.qty (asked matching rfl) creditNonneg)
      simp only [Int64.toInt_zero] at left
      simp only [settle, taken, matching, and_self, if_true]
      exact ⟨left, ledger⟩
    · -- The match takes from another order's credit.
      simp [settle, taken, matching, own,
        credits.creditOf_take_of_ne row.orderId row.qty (Ne.symm own), held]
  · have noMatch : row.isMatch = false := by simpa using matching
    by_cases restarting : row.restarts config = true
    · -- The row restarts another order's credit.
      have other : row.orderId ≠ orderId := by simpa [restarting] using kept
      simp [settle, taken, noMatch, restarting, credits.creditOf_drop_of_ne (Ne.symm other), held]
    · simp [settle, taken, noMatch, restarting, held]

end ReplayRow

/-! ## Steps of a replay -/

/-- What happens to a replay between two of its states: it applies a row, moves its clock,
changes its own bookkeeping, or another client's order or cancel reaches the book. -/
inductive ReplayStep where
  | row (row : ReplayRow)
  | clock (moment : Instant)
  | simulator (change : Simulator → Simulator)
  | order (now : Instant) (event : MarketEvent)
  | cancel (now : Instant) (event : MarketEvent)

namespace ReplayStep

variable [ReplayHost ρ σ]

/-- Runs a step. -/
def run : ReplayStep → ReplayM ρ σ Unit
  | .row archived => Replay.applyRow archived
  | .clock moment => Replay.moveClock moment
  | .simulator change => Replay.modifySimulator change
  | .order now event => do
    let _ ← Replay.onBook (BookM.add ReplayHost.deliver queueLimit now event)
  | .cancel now event => do
    let _ ← Replay.onBook (BookM.delete ReplayHost.deliver queueLimit now event)

/-- The steps the balance of order `orderId` is about, for a replay configured so: matches of
the order ask for quantities that are not negative, bookkeeping keeps the configuration, and no
cancel names a trade of the server's order. Other orders' rows and cancels may be anything. -/
def Admissible (config : SimulatorConfig) (orderId : String) : ReplayStep → Prop
  | .row archived => archived.isMatch = true → archived.orderId = orderId → 0 ≤ archived.qty
  | .clock _ => True
  | .simulator change => ∀ simulator, (change simulator).config = simulator.config
  | .order _ _ => True
  | .cancel _ event => BookRequest.DeletesNoTradeOfOrder config.server orderId (.delete event)

theorem run_order (now : Instant) (event : MarketEvent) (replay : Replay ρ σ) :
    (((order now event).run : ReplayM ρ σ Unit).run replay).2 =
      { replay with
        run := replay.run.after ((BookCall.add queueLimit now event).exec ReplayHost.deliver) } := by
  simp only [run, StateT.run_bind, Replay.state_bind, Replay.onBook_state, StateT.run_pure,
    Replay.state_pure, BookCall.exec, Replay.after_discard]

theorem run_cancel (now : Instant) (event : MarketEvent) (replay : Replay ρ σ) :
    (((cancel now event).run : ReplayM ρ σ Unit).run replay).2 =
      { replay with
        run := replay.run.after
          ((BookCall.delete queueLimit now event).exec ReplayHost.deliver) } := by
  simp only [run, StateT.run_bind, Replay.state_bind, Replay.onBook_state, StateT.run_pure,
    Replay.state_pure, BookCall.exec, Replay.after_discard]

end ReplayStep

section Host

variable [ReplayHost ρ σ]

/-- The replay after steps, in order. -/
def Replay.runSteps (replay : Replay ρ σ) (steps : List ReplayStep) : Replay ρ σ :=
  steps.foldl (fun replay step => (step.run.run replay).2) replay

@[simp] theorem Replay.runSteps_nil (replay : Replay ρ σ) : replay.runSteps [] = replay := rfl

@[simp] theorem Replay.runSteps_cons (replay : Replay ρ σ) (step : ReplayStep)
    (rest : List ReplayStep) :
    replay.runSteps (step :: rest) = ((step.run.run replay).2 : Replay ρ σ).runSteps rest := rfl

/-- The count behind the credit of one order: what archive matches took of the credit, and
where on the tape the trades that earn it start. Both restart when a row renews or removes the
order. -/
structure CreditCount where
  /-- What matches took of the credit. -/
  taken : Int
  /-- The length of the tape when the count started. -/
  mark : Nat

/-- The count of order `orderId` after a step from a replay: a row that restarts the order's
credit starts a new count at the end of the tape, and any other row adds what it takes of the
credit. -/
def CreditCount.record (count : CreditCount) (orderId : String) (replay : Replay ρ σ) :
    ReplayStep → CreditCount
  | .row archived =>
    if archived.restarts replay.simulator.config && archived.orderId == orderId then
      ⟨0, replay.book.tape.size⟩
    else { count with taken := count.taken + (archived.taken replay.credits orderId).toInt }
  | _ => count

/-- The count of order `orderId` after steps. -/
def Replay.countCredits (orderId : String) :
    Replay ρ σ → List ReplayStep → CreditCount → CreditCount
  | _, [], count => count
  | replay, step :: rest, count =>
    countCredits orderId (step.run.run replay).2 rest (count.record orderId replay step)

/-- What the trades on the tape from position `mark` on earn the credit of order `orderId`. -/
def Replay.earnedSince (replay : Replay ρ σ) (server orderId : String) (mark : Nat) : Int :=
  Trade.credited server orderId (replay.book.tape.toList.drop mark)

end Host

section Balance

variable [ReplayHost ρ σ] [DecidableEq ρ] {owner : σ → String} {config : SimulatorConfig}
  {orderId : String}

/-- The credit of order `orderId` balances its count: the replay keeps what a replay keeps under
configuration `config`, the count starts within the tape and took nothing negative, and, while
what the trades since its start earn stays in range, the credit is not negative and, with what
was taken of it, makes up exactly what they earned. -/
structure Replay.Balanced (owner : σ → String) (config : SimulatorConfig) (orderId : String)
    (replay : Replay ρ σ) (count : CreditCount) : Prop where
  keeping : replay.Keeping owner
  configured : replay.simulator.config = config
  marked : count.mark ≤ replay.book.tape.size
  takenNonneg : 0 ≤ count.taken
  balanced : replay.earnedSince config.server orderId count.mark < 2 ^ 63 →
    0 ≤ (replay.credits.creditOf orderId).toInt ∧
      (replay.credits.creditOf orderId).toInt + count.taken =
        replay.earnedSince config.server orderId count.mark

namespace Replay.Balanced

variable {replay after : Replay ρ σ} {count : CreditCount}

omit [ReplayHost ρ σ] [DecidableEq ρ] in
theorem size_of_taped {later : List Trade}
    (taped : after.book.tape.toList = replay.book.tape.toList ++ later) :
    after.book.tape.size = replay.book.tape.size + later.length := by
  simpa using congrArg List.length taped

/-- A fresh credit balances a count that starts at the end of the tape. -/
theorem start (keeping : replay.Keeping owner) (fresh : replay.credits.creditOf orderId = 0) :
    replay.Balanced owner replay.simulator.config orderId ⟨0, replay.book.tape.size⟩ where
  keeping := keeping
  configured := rfl
  marked := Nat.le_refl _
  takenNonneg := Int.le_refl 0
  balanced := by
    intro _
    simp [earnedSince, fresh, ← Array.length_toList]

/-- A step that leaves the book, the owner and the credits as they were keeps the balance. -/
theorem of_same (balanced : replay.Balanced owner config orderId count)
    (sameBook : after.book = replay.book)
    (sameOwner : owner after.run.audience = owner replay.run.audience)
    (sameCredits : after.credits = replay.credits) (configured : after.simulator.config = config) :
    after.Balanced owner config orderId count where
  keeping :=
    { wellFormed := sameBook ▸ balanced.keeping.wellFormed
      owned := by rw [sameOwner, balanced.keeping.owned, balanced.configured, configured]
      once := sameBook ▸ balanced.keeping.once }
  configured := configured
  marked := sameBook ▸ balanced.marked
  takenNonneg := balanced.takenNonneg
  balanced := by
    rw [earnedSince, sameBook, sameCredits]
    exact balanced.balanced

/-- A step that keeps what a replay keeps, settles the credits into `settled`, taking `taken` of
the order's credit, and then observes the trades it adds to the tape, keeps the balance with the
count that adds what it took. -/
theorem grow (balanced : replay.Balanced owner config orderId count)
    (keeping : after.Keeping owner) (configured : after.simulator.config = config)
    {later : List Trade} (taped : after.book.tape.toList = replay.book.tape.toList ++ later)
    {settled : MatchCredits}
    (credited : after.credits.creditOf orderId =
      (settled.observeAll config.server later).creditOf orderId)
    {taken : Int} (takenNonneg : 0 ≤ taken)
    (settles : 0 ≤ (replay.credits.creditOf orderId).toInt →
      0 ≤ (settled.creditOf orderId).toInt ∧
        (settled.creditOf orderId).toInt + taken = (replay.credits.creditOf orderId).toInt) :
    after.Balanced owner config orderId { count with taken := count.taken + taken } where
  keeping := keeping
  configured := configured
  marked := by
    rw [size_of_taped taped]
    exact Nat.le_add_right_of_le balanced.marked
  takenNonneg := by
    have := balanced.takenNonneg
    dsimp only
    omega
  balanced := by
    -- The trades since the mark are the old ones and the ones this step added.
    have split : after.earnedSince config.server orderId count.mark =
        replay.earnedSince config.server orderId count.mark +
          Trade.credited config.server orderId later := by
      rw [earnedSince, earnedSince, taped, List.drop_append_of_le_length
        (by rw [Array.length_toList]; exact balanced.marked), Trade.credited_append]
    have laterNonneg := Trade.credited_nonneg config.server orderId later
    have countNonneg := balanced.takenNonneg
    intro fits
    dsimp only at fits ⊢
    obtain ⟨held, sums⟩ := balanced.balanced (by omega)
    obtain ⟨settledNonneg, settledSum⟩ := settles held
    have observed := settled.toInt_creditOf_observeAll config.server orderId later settledNonneg
      (by omega)
    rw [credited, observed]
    omega

/-- A step that keeps what a replay keeps, clears the order's credit and then observes the
trades it adds to the tape balances a new count that starts where the tape ended before it. -/
theorem restart (keeping : after.Keeping owner) (configured : after.simulator.config = config)
    {later : List Trade} (taped : after.book.tape.toList = replay.book.tape.toList ++ later)
    {settled : MatchCredits}
    (credited : after.credits.creditOf orderId =
      (settled.observeAll config.server later).creditOf orderId)
    (cleared : settled.creditOf orderId = 0) :
    after.Balanced owner config orderId ⟨0, replay.book.tape.size⟩ where
  keeping := keeping
  configured := configured
  marked := by
    rw [size_of_taped taped]
    exact Nat.le_add_right _ _
  takenNonneg := Int.le_refl 0
  balanced := by
    have since : after.earnedSince config.server orderId replay.book.tape.size =
        Trade.credited config.server orderId later := by
      rw [earnedSince, taped, ← Array.length_toList, List.drop_left]
    have laterNonneg := Trade.credited_nonneg config.server orderId later
    intro fits
    dsimp only at fits ⊢
    have observed := settled.toInt_creditOf_observeAll config.server orderId later
      (by simp [cleared]) (by rw [since] at fits; simp only [cleared, Int64.toInt_zero]; omega)
    rw [since, credited, observed, cleared, Int64.toInt_zero]
    omega

end Replay.Balanced

variable (laws : ReplayHost.Lawful ρ σ owner)
include laws

namespace Replay.Balanced

variable {replay : Replay ρ σ} {count : CreditCount}

/-- A row keeps the balance: it restarts the order's count, or takes from the credit what the
count adds. -/
theorem applyRow (row : ReplayRow)
    (asked : row.isMatch = true → row.orderId = orderId → 0 ≤ row.qty)
    (balanced : replay.Balanced owner config orderId count) :
    ((Replay.applyRow row).run replay).2.Balanced owner config orderId
      (count.record orderId replay (.row row)) := by
  obtain ⟨keeping, configured, later, taped, credited⟩ :=
    Replay.applyRow_keeps laws row orderId balanced.keeping
  have sameConfig := balanced.configured
  subst sameConfig
  simp only [CreditCount.record]
  by_cases restarting : (row.restarts replay.simulator.config && row.orderId == orderId) = true
  · -- The row restarts this very order's credit.
    rw [if_pos restarting]
    simp only [Bool.and_eq_true, beq_iff_eq] at restarting
    obtain ⟨restarts, own⟩ := restarting
    subst own
    exact restart keeping configured taped credited
      (ReplayRow.creditOf_settle_of_restarts restarts)
  · have kept : (row.restarts replay.simulator.config && row.orderId == orderId) = false := by
      simpa using restarting
    rw [if_neg restarting]
    exact balanced.grow keeping configured taped credited (ReplayRow.taken_nonneg asked)
      (ReplayRow.settle_balances asked kept)

/-- Moving the clock keeps the balance. -/
theorem moveClock (moment : Instant) (balanced : replay.Balanced owner config orderId count) :
    ((Replay.moveClock moment).run replay).2.Balanced owner config orderId count :=
  balanced.of_same rfl (laws.owner_atTime _ _) (laws.credits_atTime _ _) balanced.configured

omit laws in
/-- Bookkeeping that keeps the configuration keeps the balance. -/
theorem modifySimulator (change : Simulator → Simulator)
    (keepsConfig : ∀ simulator, (change simulator).config = simulator.config)
    (balanced : replay.Balanced owner config orderId count) :
    ((Replay.modifySimulator change).run replay).2.Balanced owner config orderId count :=
  balanced.of_same rfl rfl rfl ((keepsConfig _).trans balanced.configured)

/-- A call of another client on the book, that hands no trade of the server's order to a
delete, keeps the balance: the order's credit observes the trades the call adds to the tape. -/
theorem call {call : BookCall ρ} (trading : call.Keeps (CreditsFollow
      (ReplayHost.creditView owner) config.server orderId replay.credits replay.book.tape.toList))
    (allowed : call.Allowed (BookRequest.DeletesNoTradeOfOrder config.server orderId))
    (balanced : replay.Balanced owner config orderId count) :
    ({ replay with run := replay.run.after (call.exec ReplayHost.deliver) } : Replay ρ σ).Balanced
      owner config orderId count := by
  have owned := balanced.keeping.owned
  rw [balanced.configured] at owned
  obtain ⟨wellFormed, followOwned, once, later, taped, credited⟩ :=
    BookCall.exec_keeps_credits laws.listens laws.keeps trading allowed
      balanced.keeping.wellFormed owned balanced.keeping.once
  have keeping : ({ replay with run := replay.run.after (call.exec ReplayHost.deliver) } :
      Replay ρ σ).Keeping owner :=
    { wellFormed := wellFormed
      owned := by
        rw [← balanced.configured] at followOwned
        exact followOwned
      once := once }
  have grown : ({ replay with run := replay.run.after (call.exec ReplayHost.deliver) } :
      Replay ρ σ).Balanced owner config orderId { count with taken := count.taken + 0 } :=
    balanced.grow keeping balanced.configured taped credited (Int.le_refl 0)
      (fun held => ⟨held, Int.add_zero _⟩)
  simpa only [Int.add_zero] using grown

end Replay.Balanced

/-- Every admissible step keeps the balance, with the count it records. -/
theorem Replay.Balanced.step {replay : Replay ρ σ} {count : CreditCount} (step : ReplayStep)
    (admissible : step.Admissible config orderId)
    (balanced : replay.Balanced owner config orderId count) :
    ((step.run.run replay).2 : Replay ρ σ).Balanced owner config orderId
      (count.record orderId replay step) := by
  cases step with
  | row row => exact balanced.applyRow laws row admissible
  | clock moment => exact balanced.moveClock laws moment
  | simulator change => exact balanced.modifySimulator change admissible
  | order now event =>
    rw [ReplayStep.run_order]
    exact balanced.call laws trivial trivial
  | cancel now event =>
    rw [ReplayStep.run_cancel]
    exact balanced.call laws trivial admissible

/-- Every run of admissible steps keeps the balance, with the count the steps record. -/
theorem Replay.balanced_runSteps (steps : List ReplayStep)
    (admissible : ∀ step ∈ steps, step.Admissible config orderId) {replay : Replay ρ σ}
    {count : CreditCount} (balanced : replay.Balanced owner config orderId count) :
    (replay.runSteps steps).Balanced owner config orderId (replay.countCredits orderId steps count) := by
  induction steps generalizing replay count with
  | nil => exact balanced
  | cons step rest inductionHypothesis =>
    -- The first step keeps the balance; the rest run from the state it leaves.
    exact inductionHypothesis (fun later mem => admissible later (List.mem_cons_of_mem _ mem))
      (balanced.step laws step (admissible step List.mem_cons_self))

/-- What a partial match of order `orderId`, asking for a quantity that is not negative, does
when applied to the replay: it takes between nothing and that quantity of the credit, and, while
what the trades since the count's start earned stays in range, no more than they earned less
what matches took before; and it lowers what is left of the order by no more than its quantity
less what it took. -/
def Replay.MatchesWithin (replay : Replay ρ σ) (config : SimulatorConfig) (orderId : String)
    (count : CreditCount) : Prop :=
  ∀ row : ReplayRow, row.orderId = orderId → row.action = ReplayAction.partialMatch →
    0 ≤ row.qty →
    0 ≤ (replay.credits.take orderId row.qty).1 ∧ (replay.credits.take orderId row.qty).1 ≤ row.qty ∧
      (replay.earnedSince config.server orderId count.mark < 2 ^ 63 →
        (replay.credits.take orderId row.qty).1.toInt + count.taken ≤
          replay.earnedSince config.server orderId count.mark) ∧
      (((applyRow row).run replay).2.book.remainingOf row.side ⟨config.server, orderId⟩).toInt ≤
        (replay.book.remainingOf row.side ⟨config.server, orderId⟩).toInt ∧
      (replay.book.remainingOf row.side ⟨config.server, orderId⟩).toInt -
          (((applyRow row).run replay).2.book.remainingOf row.side ⟨config.server, orderId⟩).toInt ≤
        (row.qty - (replay.credits.take orderId row.qty).1).toInt

/-- At a balanced replay, partial matches of the order stay within its credit and its quantity. -/
theorem Replay.Balanced.matchesWithin {replay : Replay ρ σ} {count : CreditCount}
    (balanced : replay.Balanced owner config orderId count) :
    replay.MatchesWithin config orderId count := by
  intro row own partialRow asked
  subst own
  obtain ⟨usedNonneg, usedBelow⟩ := replay.credits.take_within row.orderId row.qty asked
  obtain ⟨lowers, bounded⟩ :=
    Replay.applyRow_partialMatch_within laws row balanced.keeping partialRow asked
  rw [balanced.configured] at lowers bounded
  refine ⟨usedNonneg, usedBelow, ?_, lowers, bounded⟩
  -- What the match takes is at most the credit, which makes up the earnings less what was taken.
  intro fits
  obtain ⟨held, sums⟩ := balanced.balanced fits
  have atMost := Int64.le_iff_toInt_le.mp
    (replay.credits.take_le_credit row.orderId row.qty (Int64.le_iff_toInt_le.mpr (by simpa using held)))
  omega

/-- Over every run of steps admissible for order `orderId` from a replay that keeps what a
replay keeps, starting with no credit for the order, the credit balances what the trades since
the order's last restart earned against what matches took of it, and a partial match of the
order then applied stays within the credit and its own quantity. Rows and cancels of other
orders are not restricted. -/
theorem Replay.credits_balance {replay : Replay ρ σ} (keeping : replay.Keeping owner)
    (fresh : replay.credits.creditOf orderId = 0) (steps : List ReplayStep)
    (admissible : ∀ step ∈ steps, step.Admissible replay.simulator.config orderId) :
    (replay.runSteps steps).Balanced owner replay.simulator.config orderId
        (replay.countCredits orderId steps ⟨0, replay.book.tape.size⟩) ∧
      (replay.runSteps steps).MatchesWithin replay.simulator.config orderId
        (replay.countCredits orderId steps ⟨0, replay.book.tape.size⟩) := by
  have balanced := Replay.balanced_runSteps laws steps admissible (Replay.Balanced.start keeping fresh)
  exact ⟨balanced, balanced.matchesWithin laws⟩

end Balance

/-! ## A replay that only the replay drives -/

/-- The subscribers of a book that only the replay drives keep the credits of the owner they
hold: they only listen, the creditor observes every event, and the credits and the owner read
back what was set and stay when the time moves. -/
theorem ReplayAudience.lawful : ReplayHost.Lawful ReplayRole ReplayAudience (·.owner) where
  listens := by
    intro audience book subscription event
    show (replayDelivery audience book subscription event).2 = Reaction.none
    unfold replayDelivery
    split <;> rfl
  keeps :=
    { observes := by
        intro audience book subscription event creditor
        show (replayDelivery audience book subscription event).1.credits = _
        unfold replayDelivery
        rw [creditor]
        rfl
      ignores := by
        intro audience book subscription event other
        show (replayDelivery audience book subscription event).1.credits = _
        unfold replayDelivery
        split
        · rfl
        · rename_i creditor
          exact absurd creditor other
      keepsOwner := by
        intro audience book subscription event
        show (replayDelivery audience book subscription event).1.owner = _
        unfold replayDelivery
        split <;> rfl }
  credits_withCredits _ _ := rfl
  withCredits_credits _ := rfl
  owner_withCredits _ _ := rfl
  credits_atTime _ _ := rfl
  owner_atTime _ _ := rfl

/-- A replay of `VOD.L` orders that `exchange` owns, from a stream, before its first row, with
its credits subscribed as a run subscribes them. -/
def creditedReplay : Replay ReplayRole ReplayAudience :=
  let replay := Replay.recorded ⟨"VOD.L", "exchange", ⟨Instant.zero, Instant.zero⟩⟩
    (.stream "rows" 10) Instant.zero
  { replay with run := { replay.run with book := (replay.book.subscribe "replay-credits" .credits).1 } }

theorem creditedReplay_keeping : creditedReplay.Keeping (·.owner) where
  wellFormed := ((OrderBook.WellFormed.empty _ _).resubscribe _ _).resubscribe _ _
  owned := rfl
  once := by decide

/-- An offer of ten at 100 for order `o1`. -/
def offerRow : ReplayRow :=
  ⟨"o1", ReplayAction.new, 10, Decimal.ofInt 100, Side.sell, Instant.zero, 1⟩

/-- Offering order `o1` keeps its credit balanced, and bounds a partial match of it. -/
theorem creditedReplay_offer_balances :
    ReplayHost.Lawful ReplayRole ReplayAudience (·.owner) ∧ creditedReplay.Keeping (·.owner) ∧
      creditedReplay.credits.creditOf "o1" = 0 ∧
      (∀ step ∈ [ReplayStep.row offerRow], step.Admissible creditedReplay.simulator.config "o1") ∧
      (creditedReplay.runSteps [.row offerRow]).Balanced (·.owner) creditedReplay.simulator.config
          "o1" (creditedReplay.countCredits "o1" [.row offerRow] ⟨0, creditedReplay.book.tape.size⟩) ∧
        (creditedReplay.runSteps [.row offerRow]).MatchesWithin creditedReplay.simulator.config "o1"
          (creditedReplay.countCredits "o1" [.row offerRow] ⟨0, creditedReplay.book.tape.size⟩) :=
  have admissible : ∀ step ∈ [ReplayStep.row offerRow],
      step.Admissible creditedReplay.simulator.config "o1" := by
    intro step member
    rw [List.mem_singleton] at member
    subst member
    intro matched _
    exact absurd matched (by decide)
  ⟨ReplayAudience.lawful, creditedReplay_keeping, rfl, admissible,
    Replay.credits_balance ReplayAudience.lawful creditedReplay_keeping rfl [.row offerRow] admissible⟩

/-- A partial match of order `o1` for minus three. -/
def negativeMatchRow : ReplayRow :=
  ⟨"o1", ReplayAction.partialMatch, -3, Decimal.ofInt 100, Side.sell, Instant.zero, 2⟩

/-- A partial match for a negative quantity, with no credit to take, empties the whole order:
the offer of ten loses all ten, where nothing was to be executed. -/
theorem negative_partialMatch_empties_order :
    let offered := ((Replay.applyRow offerRow).run creditedReplay).2
    (offered.credits.take "o1" (-3)).1 = 0 ∧
      offered.book.remainingOf Side.sell ⟨"exchange", "o1"⟩ = 10 ∧
      ((Replay.applyRow negativeMatchRow).run offered).2.book.remainingOf Side.sell
        ⟨"exchange", "o1"⟩ = 0 := by
  decide +kernel

/-- Why the balance asks the earnings to stay in range: a bid and an offer of one order id that
match each other for 2^62 credit the id twice, the credit wraps around to the least 64-bit
integer, and a later partial match of five is applied to the bid instead of being offset. -/
theorem self_match_wraps_credit :
    let crossed := creditedReplay.runSteps
      [.row ⟨"X", ReplayAction.new, 4611686018427387914, Decimal.ofInt 100, Side.buy, Instant.zero, 1⟩,
        .row ⟨"X", ReplayAction.new, 4611686018427387904, Decimal.ofInt 100, Side.sell, Instant.zero, 2⟩]
    crossed.credits.creditOf "X" = -9223372036854775808 ∧
      crossed.book.remainingOf Side.buy ⟨"exchange", "X"⟩ = 10 ∧
      ((Replay.applyRow ⟨"X", ReplayAction.partialMatch, 5, Decimal.ofInt 100, Side.buy, Instant.zero,
        3⟩).run crossed).2.book.remainingOf Side.buy ⟨"exchange", "X"⟩ = 5 := by
  decide +kernel

end Bourse
