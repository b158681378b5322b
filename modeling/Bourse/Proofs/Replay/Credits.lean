import Bourse.Replay.Credits
import Bourse.Proofs.Book.WellFormed

/-!
# The arithmetic of match credits

Every operation on the credits touches the credit of one order id and leaves the others alone.
Observing an event adds what the event earns the id (`Trade.creditFor`); dropping clears the
credit; taking moves quantity out of the credit into what the take returns, so that the credit
left and the amount returned always add up to the credit before (`take_ledger`), whatever was
asked.

For a quantity asked that is not negative, a take returns between nothing and the lesser of what
was asked and what was held, and leaves a credit that is not negative (`take_within`,
`take_le_credit`, `take_keeps_nonneg`). For a negative quantity asked of a positive credit, it
returns that negative quantity and the credit grows (`take_of_neg`).
-/

namespace Bourse

/-- What a trade earns the credit of order `orderId` when `owner` owns the replayed orders: its
quantity, when it is a positive trade of that order in which both sides are the owner's. -/
def Trade.creditFor (trade : Trade) (owner orderId : String) : Int64 :=
  if trade.header.clientId = owner ∧ trade.execution.contraClientId = owner ∧
      0 < trade.execution.execQty ∧ trade.header.clientOrderId = orderId then
    trade.execution.execQty
  else 0

/-- The trade an event reports carries the event's header. -/
theorem Trade.header_of_ofEvent? {event : MarketEvent} {trade : Trade}
    (reported : Trade.ofEvent? event = some trade) : trade.header = event.header := by
  cases event <;> simp only [Trade.ofEvent?, Option.some.injEq, reduceCtorEq] at reported <;>
    (subst reported; rfl)

/-- What a list of trades earns the credit of order `orderId`. -/
def Trade.earned (owner orderId : String) : List Trade → Int64
  | [] => 0
  | trade :: rest => trade.creditFor owner orderId + earned owner orderId rest

namespace Trade

variable {owner orderId : String}

@[simp] theorem earned_nil : earned owner orderId [] = 0 := rfl

@[simp] theorem earned_cons (trade : Trade) (rest : List Trade) :
    earned owner orderId (trade :: rest) = trade.creditFor owner orderId + earned owner orderId rest :=
  rfl

/-- A trade earns a credit nothing or its positive quantity. -/
theorem creditFor_nonneg (trade : Trade) : 0 ≤ trade.creditFor owner orderId := by
  unfold creditFor
  split
  · rename_i earns
    exact Int64.le_of_lt earns.2.2.1
  · exact Int64.le_refl 0

end Trade

namespace MatchCredits

variable (credits : MatchCredits) {orderId other : String}

/-- Observes, in order, the trades of a list as the book publishes them. -/
def observeAll (owner : String) (trades : List Trade) : MatchCredits :=
  trades.foldl (fun credits trade => credits.observe owner trade.toEvent) credits

/-! ## One order id at a time -/

theorem lookup_filter_self (entries : List (String × Int64)) :
    (entries.filter (·.1 != orderId)).lookup orderId = none := by
  induction entries with
  | nil => rfl
  | cons entry rest inductionHypothesis =>
    obtain ⟨key, qty⟩ := entry
    by_cases same : key = orderId
    · rw [List.filter_cons_of_neg (by simp [same])]
      exact inductionHypothesis
    · rw [List.filter_cons_of_pos (by simp [same]), List.lookup_cons,
        beq_false_of_ne (Ne.symm same)]
      exact inductionHypothesis

theorem lookup_filter_of_ne (entries : List (String × Int64)) (different : other ≠ orderId) :
    (entries.filter (·.1 != orderId)).lookup other = entries.lookup other := by
  induction entries with
  | nil => rfl
  | cons entry rest inductionHypothesis =>
    obtain ⟨key, qty⟩ := entry
    by_cases same : key = orderId
    · rw [List.filter_cons_of_neg (by simp [same]), List.lookup_cons,
        beq_false_of_ne (same ▸ different)]
      exact inductionHypothesis
    · rw [List.filter_cons_of_pos (by simp [same]), List.lookup_cons, List.lookup_cons,
        inductionHypothesis]

@[simp] theorem creditOf_empty : empty.creditOf orderId = 0 := rfl

@[simp] theorem creditOf_drop_self : (credits.drop orderId).creditOf orderId = 0 := by
  simp [creditOf, drop, lookup_filter_self]

theorem creditOf_drop_of_ne (different : other ≠ orderId) :
    (credits.drop orderId).creditOf other = credits.creditOf other := by
  simp [creditOf, drop, lookup_filter_of_ne _ different]

@[simp] theorem creditOf_setCredit_self (qty : Int64) :
    (credits.setCredit orderId qty).creditOf orderId = qty := by
  simp [creditOf, setCredit, drop, List.lookup_append, lookup_filter_self]

theorem creditOf_setCredit_of_ne (qty : Int64) (different : other ≠ orderId) :
    (credits.setCredit orderId qty).creditOf other = credits.creditOf other := by
  have skipped : (other == orderId) = false := beq_false_of_ne different
  simp only [creditOf, setCredit, drop, List.lookup_append, lookup_filter_of_ne _ different]
  cases credits.credits.lookup other <;> simp [List.lookup_cons, skipped]

/-! ## Observing -/

/-- An event that is no trade earns nothing. -/
theorem observe_of_order (owner : String) {event : MarketEvent}
    (order : Trade.ofEvent? event = none) : credits.observe owner event = credits := by
  simp [observe, order]

/-- A trade of another client earns nothing. -/
theorem observe_of_other (owner : String) {event : MarketEvent}
    (others : ∀ trade, Trade.ofEvent? event = some trade → trade.header.clientId ≠ owner) :
    credits.observe owner event = credits := by
  unfold observe
  split
  · rfl
  · rename_i trade reported
    simp [others trade reported]

/-- An event that is no trade of the owner's order `orderId` leaves that order's credit. -/
theorem creditOf_observe_of_spares (owner : String) {event : MarketEvent}
    (spares : ∀ trade, Trade.ofEvent? event = some trade → trade.header.clientId = owner →
      trade.header.clientOrderId ≠ orderId) :
    (credits.observe owner event).creditOf orderId = credits.creditOf orderId := by
  unfold observe
  split
  · rfl
  · rename_i trade reported
    dsimp only
    split
    · rfl
    · -- The trade earns, so it is the owner's, and of another order.
      rename_i earning
      have mine : trade.header.clientId = owner := by
        simp only [Bool.or_eq_true, bne_iff_ne, ne_eq, decide_eq_true_eq, not_or, not_not] at earning
        exact earning.1.1
      exact creditOf_setCredit_of_ne _ _ (Ne.symm (spares trade reported mine))

/-- A published trade adds what it earns to each credit. -/
theorem creditOf_observe (owner : String) (trade : Trade) :
    (credits.observe owner trade.toEvent).creditOf orderId =
      credits.creditOf orderId + trade.creditFor owner orderId := by
  unfold observe Trade.creditFor
  simp only [Trade.ofEvent_toEvent]
  by_cases earns : trade.header.clientId = owner ∧ trade.execution.contraClientId = owner ∧
      0 < trade.execution.execQty
  · obtain ⟨mine, contra, positive⟩ := earns
    have kept : ¬(trade.execution.execQty ≤ 0) := fun low => Int64.not_le.mpr positive low
    by_cases named : trade.header.clientOrderId = orderId
    · subst named
      simp [mine, contra, positive, kept]
    · simp [mine, contra, positive, kept, named,
        creditOf_setCredit_of_ne _ _ (Ne.symm named), Int64.add_zero]
  · have refused : ¬(trade.header.clientId = owner ∧ trade.execution.contraClientId = owner ∧
        0 < trade.execution.execQty ∧ trade.header.clientOrderId = orderId) :=
      fun earning => earns ⟨earning.1, earning.2.1, earning.2.2.1⟩
    rw [if_neg refused, Int64.add_zero]
    by_cases mine : trade.header.clientId = owner
    · by_cases contra : trade.execution.contraClientId = owner
      · have low : trade.execution.execQty ≤ 0 :=
          Int64.not_lt.mp fun positive => earns ⟨mine, contra, positive⟩
        simp [mine, contra, low]
      · simp [mine, contra]
    · simp [mine]

/-- Observing a list of published trades adds what they earn to each credit. -/
theorem creditOf_observeAll (owner : String) (trades : List Trade) :
    (credits.observeAll owner trades).creditOf orderId =
      credits.creditOf orderId + Trade.earned owner orderId trades := by
  induction trades generalizing credits with
  | nil => simp [observeAll, Int64.add_zero]
  | cons trade rest inductionHypothesis =>
    rw [observeAll, List.foldl_cons, ← observeAll, inductionHypothesis, creditOf_observe,
      Trade.earned_cons, Int64.add_assoc]

theorem observeAll_append (owner : String) (first second : List Trade) :
    credits.observeAll owner (first ++ second) =
      (credits.observeAll owner first).observeAll owner second := by
  simp [observeAll, List.foldl_append]

/-! ## Taking -/

section Take

variable (orderId) (wanted : Int64)

/-- A take returns nothing from a credit that is not positive, and otherwise the lesser of what
is held and what is asked. -/
theorem take_fst : (credits.take orderId wanted).1 =
    if credits.creditOf orderId ≤ 0 then 0
    else if credits.creditOf orderId ≤ wanted then credits.creditOf orderId else wanted := by
  unfold take
  dsimp only
  split_ifs <;> rfl

/-- A take leaves the credit less what it returned. -/
theorem creditOf_take_self :
    (credits.take orderId wanted).2.creditOf orderId =
      credits.creditOf orderId - (credits.take orderId wanted).1 := by
  by_cases spent : credits.creditOf orderId ≤ 0
  · simp [take, spent, Int64.sub_zero]
  · -- A positive credit either empties, when all of it is used, or keeps the rest.
    simp only [take, spent, if_false]
    generalize (if credits.creditOf orderId ≤ wanted then credits.creditOf orderId else wanted) =
      used
    by_cases emptied : (credits.creditOf orderId == used) = true
    · simp only [emptied, if_true, creditOf_drop_self]
      rw [eq_of_beq emptied, Int64.sub_self]
    · simp only [emptied, if_false, Bool.false_eq_true, creditOf_setCredit_self]

/-- What a take leaves of the credit and what it returns add up to the credit before. -/
theorem take_ledger :
    (credits.take orderId wanted).2.creditOf orderId + (credits.take orderId wanted).1 =
      credits.creditOf orderId := by
  rw [creditOf_take_self, Int64.sub_add_cancel]

/-- A take leaves the credits of other ids alone. -/
theorem creditOf_take_of_ne (different : other ≠ orderId) :
    (credits.take orderId wanted).2.creditOf other = credits.creditOf other := by
  by_cases spent : credits.creditOf orderId ≤ 0
  · simp [take, spent]
  · simp only [take, spent, if_false]
    generalize (if credits.creditOf orderId ≤ wanted then credits.creditOf orderId else wanted) =
      used
    split
    · exact creditOf_drop_of_ne _ different
    · exact creditOf_setCredit_of_ne _ _ different

/-- Asked for a quantity that is not negative, a take returns between nothing and that
quantity. -/
theorem take_within (asked : 0 ≤ wanted) :
    0 ≤ (credits.take orderId wanted).1 ∧ (credits.take orderId wanted).1 ≤ wanted := by
  rw [take_fst]
  split_ifs with spent below
  · exact ⟨Int64.le_refl 0, asked⟩
  · exact ⟨Int64.le_of_lt (Int64.not_le.mp spent), below⟩
  · exact ⟨asked, Int64.le_refl _⟩

/-- What a take leaves of a quantity that is not negative is computed exactly. -/
theorem toInt_sub_take (asked : 0 ≤ wanted) :
    (wanted - (credits.take orderId wanted).1).toInt =
      wanted.toInt - (credits.take orderId wanted).1.toInt := by
  obtain ⟨usedNonneg, usedBelow⟩ := take_within credits orderId wanted asked
  rw [Int64.le_iff_toInt_le] at usedNonneg usedBelow asked
  simp only [Int64.toInt_zero] at usedNonneg
  have wantedBelow := Int64.toInt_lt wanted
  exact Int64.toInt_sub_of_bounds _ _ (by omega) (by omega)

/-- A take returns no more than a credit that is not negative holds. -/
theorem take_le_credit (nonneg : 0 ≤ credits.creditOf orderId) :
    (credits.take orderId wanted).1 ≤ credits.creditOf orderId := by
  rw [take_fst]
  split_ifs with spent below
  · exact nonneg
  · exact Int64.le_refl _
  · exact Int64.le_of_lt (Int64.not_le.mp below)

/-- Asked for a quantity that is not negative of a credit that is not negative, a take moves
quantity from the credit to what it returns exactly, with no wrap-around. -/
theorem toInt_take_ledger (asked : 0 ≤ wanted) (nonneg : 0 ≤ credits.creditOf orderId) :
    ((credits.take orderId wanted).2.creditOf orderId).toInt +
        (credits.take orderId wanted).1.toInt = (credits.creditOf orderId).toInt := by
  obtain ⟨taken, -⟩ := credits.take_within orderId wanted asked
  have atMost := credits.take_le_credit orderId wanted nonneg
  rw [creditOf_take_self]
  rw [Int64.le_iff_toInt_le] at taken atMost nonneg
  simp only [Int64.toInt_zero] at taken nonneg
  have heldBelow := Int64.toInt_lt (credits.creditOf orderId)
  rw [Int64.toInt_sub_of_bounds _ _ (by omega) (by omega)]
  omega

/-- Asked for a quantity that is not negative, a take leaves a credit that is not negative. -/
theorem take_keeps_nonneg (asked : 0 ≤ wanted) (nonneg : 0 ≤ credits.creditOf orderId) :
    0 ≤ (credits.take orderId wanted).2.creditOf orderId := by
  have ledger := credits.toInt_take_ledger orderId wanted asked nonneg
  have atMost := credits.take_le_credit orderId wanted nonneg
  rw [Int64.le_iff_toInt_le] at atMost ⊢
  simp only [Int64.toInt_zero]
  omega

/-- Asked for a negative quantity, a take of a positive credit returns that quantity. -/
theorem take_of_neg (held : 0 < credits.creditOf orderId) (negative : wanted < 0) :
    (credits.take orderId wanted).1 = wanted := by
  have notSpent : ¬credits.creditOf orderId ≤ 0 := Int64.not_le.mpr held
  have above : ¬credits.creditOf orderId ≤ wanted :=
    Int64.not_le.mpr (Int64.lt_trans negative held)
  rw [take_fst, if_neg notSpent, if_neg above]

end Take

end MatchCredits

end Bourse
