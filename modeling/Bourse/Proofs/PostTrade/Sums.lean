import Bourse.Proofs.PostTrade.Read
import Bourse.Proofs.Decimal.Division
import Bourse.Proofs.Decimal.Text
import Bourse.Proofs.Text.Integer

/-!
# Fill reports sum up the trades

Reading the log lines of trades one after another, the fill report keeps, for every client in
the order it first traded, what its trades sum up to (`ClientFills.ofTrades`), and counts the
trades without a client as skipped (`FillReport.Tallies`). Prices are read back from their text
with the same value and not always the same spelling, so notionals are compared by value
(`ClientFills.tally`).
-/

namespace Bourse

namespace ClientFills

/-- What a report says of a client, its notionals by value. -/
def tally (fills : ClientFills) : String × Nat × Int64 × Int64 × ℚ × ℚ :=
  (fills.client, fills.trades, fills.bought, fills.sold, fills.buyNotional.value,
    fills.sellNotional.value)

/-- Recording a fill at prices of one value keeps the tallies equal. -/
theorem tally_record {fills fills' : ClientFills} (same : fills.tally = fills'.tally)
    (buying : Bool) (quantity : Int64) {price price' : Decimal} (samePrice : price.value = price'.value) :
    (fills.record buying quantity price).tally = (fills'.record buying quantity price').tally := by
  simp only [tally, Prod.mk.injEq] at same ⊢
  obtain ⟨client, trades, bought, sold, buyNotional, sellNotional⟩ := same
  cases buying <;>
    simp [record, client, trades, bought, sold, buyNotional, sellNotional, samePrice]

/-- A client's fills summed from its trades, each a buy when its side buys. -/
def ofTrades (client : String) (trades : List Trade) : ClientFills :=
  trades.foldl (fun fills trade =>
    fills.record (trade.header.side == Side.buy) trade.execution.execQty
      trade.execution.execPrice) (new client)

theorem ofTrades_concat (client : String) (trades : List Trade) (trade : Trade) :
    ofTrades client (trades ++ [trade]) =
      (ofTrades client trades).record (trade.header.side == Side.buy) trade.execution.execQty
        trade.execution.execPrice := by
  simp [ofTrades]

@[simp] theorem client_record (fills : ClientFills) (buying : Bool) (quantity : Int64)
    (price : Decimal) : (fills.record buying quantity price).client = fills.client := by
  cases buying <;> rfl

@[simp] theorem client_ofTrades (client : String) (trades : List Trade) :
    (ofTrades client trades).client = client := by
  induction trades using List.reverseRecOn with
  | nil => rfl
  | append_singleton trades trade inductionHypothesis =>
    rw [ofTrades_concat, client_record, inductionHypothesis]

/-! ### What a client's trades add up to -/

/-- The trades that buy. -/
def buys (trades : List Trade) : List Trade := trades.filter (·.header.side == Side.buy)

/-- The trades that sell, short or not. -/
def sells (trades : List Trade) : List Trade := trades.filter fun trade => !(trade.header.side == Side.buy)

end ClientFills

/-- The clients of trades, each once, in the order they first traded; a trade without a client
names none. -/
def firstClients (trades : List Trade) : List String :=
  trades.foldl (fun clients trade =>
    if trade.header.clientId.isEmpty || clients.contains trade.header.clientId then clients
    else clients ++ [trade.header.clientId]) []

theorem firstClients_concat (trades : List Trade) (trade : Trade) :
    firstClients (trades ++ [trade]) =
      if trade.header.clientId.isEmpty || (firstClients trades).contains trade.header.clientId then
        firstClients trades
      else firstClients trades ++ [trade.header.clientId] := by
  simp [firstClients]

/-- A client is among the first clients exactly when it has a name and a trade. -/
theorem mem_firstClients {client : String} (named : client ≠ "") (trades : List Trade) :
    client ∈ firstClients trades ↔ ∃ trade ∈ trades, trade.header.clientId = client := by
  induction trades using List.reverseRecOn with
  | nil => simp [firstClients]
  | append_singleton trades trade inductionHypothesis =>
    rw [firstClients_concat]
    by_cases kept : (trade.header.clientId.isEmpty || (firstClients trades).contains
        trade.header.clientId) = true
    · rw [if_pos kept, inductionHypothesis]
      simp only [List.mem_append, List.mem_singleton]
      constructor
      · rintro ⟨other, member, same⟩
        exact ⟨other, .inl member, same⟩
      · rintro ⟨other, member | rfl, same⟩
        · exact ⟨other, member, same⟩
        · simp only [Bool.or_eq_true, String.isEmpty_iff, List.contains_iff_mem] at kept
          rcases kept with empty | listed
          · exact absurd (same.symm.trans empty) named
          · exact inductionHypothesis.mp (same ▸ listed)
    · rw [if_neg kept, List.mem_append, inductionHypothesis]
      simp only [List.mem_append, List.mem_singleton]
      constructor
      · rintro (⟨other, member, same⟩ | rfl)
        · exact ⟨other, .inl member, same⟩
        · exact ⟨trade, .inr rfl, rfl⟩
      · rintro ⟨other, member | rfl, same⟩
        · exact .inl ⟨other, member, same⟩
        · exact .inr same.symm

/-- The trades of one client. -/
def tradesOf (client : String) (trades : List Trade) : List Trade :=
  trades.filter (·.header.clientId == client)

/-- What a fill report should say once it has read the lines of `trades`: each client's tally,
in the order the clients first traded, and the trades without a client as skipped. -/
def FillReport.Tallies (report : FillReport) (trades : List Trade) : Prop :=
  report.clients.map ClientFills.tally =
      (firstClients trades).map (fun client => (ClientFills.ofTrades client (tradesOf client trades)).tally) ∧
    report.skipped = (trades.filter (·.header.clientId.isEmpty)).length

theorem tradesOf_concat (client : String) (trades : List Trade) (trade : Trade) :
    tradesOf client (trades ++ [trade]) =
      tradesOf client trades ++ if trade.header.clientId = client then [trade] else [] := by
  by_cases mine : trade.header.clientId = client <;> simp [tradesOf, mine]

/-- Clients' tallies keep following their specification through a change that follows it
entry by entry. -/
theorem tally_map_congr {clients : List ClientFills} {names : List String}
    {spec spec' : String → ClientFills}
    (same : clients.map ClientFills.tally = names.map fun name => (spec name).tally)
    (change : ClientFills → ClientFills)
    (step : ∀ fills, ∀ name ∈ names,
      fills.tally = (spec name).tally → (change fills).tally = (spec' name).tally) :
    (clients.map change).map ClientFills.tally = names.map fun name => (spec' name).tally := by
  induction clients generalizing names with
  | nil =>
    cases names with
    | nil => rfl
    | cons => simp at same
  | cons fills rest inductionHypothesis =>
    cases names with
    | nil => simp at same
    | cons name more =>
      simp only [List.map_cons, List.cons.injEq] at same ⊢
      exact ⟨step fills name List.mem_cons_self same.1,
        inductionHypothesis same.2 fun other later => step other later ∘ List.mem_cons_of_mem _⟩

/-- The first clients all have a name. -/
theorem ne_of_mem_firstClients {client : String} {trades : List Trade}
    (listed : client ∈ firstClients trades) : client ≠ "" := by
  induction trades using List.reverseRecOn with
  | nil => simp [firstClients] at listed
  | append_singleton trades trade inductionHypothesis =>
    rw [firstClients_concat] at listed
    split at listed
    · exact inductionHypothesis listed
    · rename_i fresh
      rcases List.mem_append.mp listed with earlier | last
      · exact inductionHypothesis earlier
      · rw [List.mem_singleton.mp last]
        simp only [Bool.or_eq_true, not_or, Bool.not_eq_true, String.isEmpty_eq_false_iff] at fresh
        exact fresh.1

/-- Only a buying side is named `BUY`. -/
theorem Side.name_beq_buy (side : Side) : (side.name == "BUY") = (side == Side.buy) := by
  unfold Side.name
  split_ifs with buy sell short <;> simp_all

/-- The fill filter that keeps every fill. -/
def FillFilter.all : FillFilter := ⟨"", Instant.zero⟩

@[simp] theorem FillFilter.keeps_all (line : FillLine) : FillFilter.all.keeps line = true := by
  simp [FillFilter.keeps, FillFilter.all, Instant.isZero, Instant.zero]

namespace FillReport.Tallies

variable {report : FillReport} {trades : List Trade}

/-- The clients a report knows are the first clients of its trades. -/
theorem clients (tallies : report.Tallies trades) :
    report.clients.map (·.client) = firstClients trades := by
  have names := congrArg (List.map Prod.fst) tallies.1
  simpa [List.map_map, Function.comp_def, ClientFills.tally] using names

/-- Crediting a trade of a named client, at a price of the trade's value, extends the
tallies by the trade. -/
theorem credit (tallies : report.Tallies trades) {trade : Trade}
    (named : trade.header.clientId ≠ "") {price : Decimal}
    (samePrice : price.value = trade.execution.execPrice.value) (lines : Nat) :
    ({ report with lines }.credit trade.header.clientId fun fills =>
        fills.record (trade.header.side == Side.buy) trade.execution.execQty price).Tallies
      (trades ++ [trade]) := by
  obtain ⟨tallied, skipped⟩ := tallies
  have names := clients ⟨tallied, skipped⟩
  have noSkip : trade.header.clientId.isEmpty = false := by simpa using named
  refine ⟨?_, by simp [FillReport.credit, apply_ite FillReport.skipped, skipped, noSkip]⟩
  by_cases present : report.clients.any (·.client == trade.header.clientId) = true
  · -- A known client: its entry records the trade, the others stay.
    have known : trade.header.clientId ∈ firstClients trades := by
      rw [← names]
      obtain ⟨fills, member, same⟩ := List.any_eq_true.mp present
      exact List.mem_map.mpr ⟨fills, member, beq_iff_eq.mp same⟩
    simp only [FillReport.credit, if_pos present]
    rw [firstClients_concat, if_pos (by simp [known])]
    refine tally_map_congr tallied _ fun fills name _ same => ?_
    have sameName : fills.client = name := by
      simpa [ClientFills.tally] using congrArg Prod.fst same
    rw [tradesOf_concat]
    by_cases mine : trade.header.clientId = name
    · rw [if_pos (beq_iff_eq.mpr (sameName.trans mine.symm)), if_pos mine,
        ClientFills.ofTrades_concat]
      exact ClientFills.tally_record same _ _ samePrice
    · rw [if_neg (by simpa [sameName] using Ne.symm mine), if_neg mine, List.append_nil]
      exact same
  · -- A new client: it comes last, with this one trade.
    have unknown : trade.header.clientId ∉ firstClients trades := by
      rw [← names]
      intro listed
      obtain ⟨fills, member, same⟩ := List.mem_map.mp listed
      exact present (List.any_eq_true.mpr ⟨fills, member, beq_iff_eq.mpr same⟩)
    have fresh : tradesOf trade.header.clientId trades = [] := by
      refine List.filter_eq_nil_iff.mpr fun other member mine => unknown ?_
      exact (mem_firstClients named trades).mpr ⟨other, member, beq_iff_eq.mp mine⟩
    simp only [FillReport.credit, if_neg present]
    rw [firstClients_concat, if_neg (by simp [noSkip, unknown]), List.map_append, List.map_append]
    congr 1
    · -- The other clients have no trade more.
      have kept : (report.clients.map id).map ClientFills.tally = (firstClients trades).map
          fun name => (ClientFills.ofTrades name (tradesOf name (trades ++ [trade]))).tally :=
        tally_map_congr tallied id fun fills name listed same => by
        have other : trade.header.clientId ≠ name := fun mine => unknown (mine ▸ listed)
        rw [id, same, tradesOf_concat, if_neg other, List.append_nil]
      simpa using kept
    · simp only [List.map_cons, List.map_nil, tradesOf_concat, fresh, if_true, List.nil_append]
      rw [← List.nil_append [trade], ClientFills.ofTrades_concat]
      exact congrArg ([·]) (ClientFills.tally_record rfl _ _ samePrice)

/-- Skipping a trade without a client extends the tallies by the trade. -/
theorem skip (tallies : report.Tallies trades) {trade : Trade}
    (unnamed : trade.header.clientId = "") (lines : Nat) :
    ({ report with lines, skipped := report.skipped + 1 } : FillReport).Tallies
      (trades ++ [trade]) := by
  obtain ⟨tallied, skipped⟩ := tallies
  refine ⟨?_, by simp [skipped, unnamed]⟩
  have kept : (report.clients.map id).map ClientFills.tally = (firstClients trades).map
      fun name => (ClientFills.ofTrades name (tradesOf name (trades ++ [trade]))).tally :=
    tally_map_congr tallied id fun fills name listed same => by
      have other : trade.header.clientId ≠ name :=
        unnamed ▸ (ne_of_mem_firstClients listed).symm
      rw [id, same, tradesOf_concat, if_neg other, List.append_nil]
  rw [firstClients_concat, if_pos (by simp [unnamed])]
  simpa using kept

/-- Reading a line that is no fill counts the line and changes nothing else. -/
theorem quiet (tallies : report.Tallies trades) {text : String}
    (quietLine : ∀ line, FillLine.read? text = some line → line.isFill = false) :
    (report.takeLine FillFilter.all text).Tallies trades := by
  unfold FillReport.takeLine
  cases reading : FillLine.read? text with
  | none => exact tallies
  | some line =>
    simp only [quietLine line reading, Bool.not_false, Bool.true_or, if_true]
    exact tallies

/-- Reading the line of a trade with a positive quantity extends the tallies by the trade. -/
theorem take (tallies : report.Tallies trades) {text : String} {now : Instant} {trade : Trade}
    (reading : FillLine.read? text = some (FillLine.ofTrade now trade))
    (positive : 0 < trade.execution.execQty) :
    (report.takeLine FillFilter.all text).Tallies (trades ++ [trade]) := by
  have filled : (FillLine.ofTrade now trade).isFill = true := by
    by_cases complete : trade.complete = true <;>
      simp [FillLine.isFill, FillLine.ofTrade, Trade.toEvent, complete, MarketEvent.kind,
        EventKind.name]
  have quantity : readInt64 (FillLine.ofTrade now trade).quantity = .ok trade.execution.execQty :=
    readInt64_toString _
  have notNonPositive : ¬trade.execution.execQty ≤ 0 := Int64.not_le.mpr positive
  obtain ⟨price, priced, samePrice⟩ := Decimal.ofText?_toText trade.execution.execPrice
  have buying : ((FillLine.ofTrade now trade).side == "BUY") = (trade.header.side == Side.buy) :=
    trade.header.side.name_beq_buy
  unfold FillReport.takeLine
  simp only [reading, filled, FillFilter.keeps_all, Bool.not_true, Bool.or_false, Bool.false_eq_true,
    if_false, quantity, notNonPositive]
  by_cases unnamed : trade.header.clientId = ""
  · simpa [FillLine.ofTrade, unnamed] using tallies.skip unnamed (report.lines + 1)
  · have named : (FillLine.ofTrade now trade).client.isEmpty = false := by
      simpa [FillLine.ofTrade] using unnamed
    simp only [named, Bool.or_false]
    simp only [FillLine.ofTrade] at priced buying ⊢
    rw [priced, buying]
    exact tallies.credit unnamed samePrice (report.lines + 1)

end FillReport.Tallies

end Bourse
