import Mathlib.Data.List.SplitBy
import Mathlib.Data.List.Forall2
import Bourse.Book.Desk
import Bourse.Proofs.Decimal.Order

/-!
# Bars follow the runs of the trades

A stream of trades splits into maximal runs of consecutive trades whose times truncate to the same
bucket start: `List.splitBy` of the stream under `sameBucket`. Fed the stream one trade at a time,
a `BarAggregator` holds one bar for each of the last `keep` finished runs and one for the run in
progress, and each bar summarises its run (`Summarises`). A trade that opens a new run, other than
the first, hands back the bar of the run it ends.

The invariant is `Holds`, over the stream split into its finished runs and the run in progress
(`RunSplit`); `Holds.onTrade_same` and `Holds.onTrade_new` are its step, `Holds.feed` the run.
-/

namespace Bourse

/-- A trade as the bars see it: its price, quantity and time. -/
structure TradePrint where
  price : Decimal
  /-- The quantity. -/
  qty : Int64
  /-- When it traded. -/
  moment : Instant

section Runs

variable {α : Type} {r : α → α → Bool} {done : List (List α)} {current : List α} {a : α}

/-- A nonempty stream seen as its finished runs `done`, which are the runs of their own trades,
followed by the run in progress `current`, whose first element is not related to the last
finished one. -/
structure RunSplit (r : α → α → Bool) (done : List (List α)) (current : List α) : Prop where
  finished : done.flatten.splitBy r = done
  nonempty : current ≠ []
  chain : current.IsChain fun x y => r x y
  boundary : ∀ x ∈ done.flatten.getLast?, ∀ y ∈ current.head?, r x y = false

theorem RunSplit.splitBy_eq (split : RunSplit r done current) :
    (done.flatten ++ current).splitBy r = done ++ [current] := by
  rw [List.splitBy_append split.boundary, split.finished,
    List.splitBy_of_isChain split.nonempty split.chain]

theorem RunSplit.single (a : α) : RunSplit r [] [a] :=
  ⟨rfl, List.cons_ne_nil a [], List.isChain_singleton a, by simp⟩

/-- An element related to the last of the run in progress extends it. -/
theorem RunSplit.extend (split : RunSplit r done current) (a : α)
    (related : r (current.getLast split.nonempty) a = true) : RunSplit r done (current ++ [a]) where
  finished := split.finished
  nonempty := by simp
  chain := split.chain.append (List.isChain_singleton a)
    (by simpa [List.getLast?_eq_some_getLast split.nonempty] using related)
  boundary := by
    rw [List.head?_append_of_ne_nil _ split.nonempty]
    exact split.boundary

/-- An element unrelated to the last of the run in progress finishes it and starts a new run. -/
theorem RunSplit.close (split : RunSplit r done current) (a : α)
    (unrelated : r (current.getLast split.nonempty) a = false) :
    RunSplit r (done ++ [current]) [a] where
  finished := by
    rw [List.flatten_append, List.flatten_singleton]
    exact split.splitBy_eq
  nonempty := List.cons_ne_nil a []
  chain := List.isChain_singleton a
  boundary := by
    rw [List.flatten_append, List.flatten_singleton,
      List.getLast?_append_of_ne_nil _ split.nonempty]
    simpa [List.getLast?_eq_some_getLast split.nonempty] using unrelated

/-- Keeping the last `keep` elements of a list with one more element at its end keeps the last
`keep` of the old last `keep` and the new element. -/
theorem drop_concat_keep (l : List α) (a : α) {keep : Nat} (one : 1 ≤ keep) :
    (l ++ [a]).drop ((l ++ [a]).length - keep) =
      (l.drop (l.length - keep) ++ [a]).drop ((l.drop (l.length - keep)).length + 1 - keep) := by
  simp only [List.length_append, List.length_drop, List.length_singleton]
  rw [List.drop_append_of_le_length (by omega), List.drop_append_of_le_length (by simp; omega),
    List.drop_drop]
  congr 2
  omega

end Runs

namespace BarAggregator

/-- Trades fed to the aggregator one after another. -/
def feed (aggregator : BarAggregator) (prints : List TradePrint) : BarAggregator :=
  prints.foldl (fun current print => (current.onTrade print.price print.qty print.moment).1)
    aggregator

/-- Two trades fall in the same bucket. -/
def sameBucket (interval : Duration) (earlier later : TradePrint) : Bool :=
  earlier.moment.truncate interval == later.moment.truncate interval

/-- The quantity of a run of trades, added up in order in 64-bit arithmetic. -/
def volumeOf (prints : List TradePrint) : Int64 :=
  prints.foldl (fun total print => total + print.qty) 0

/-- The bars the aggregator hands back along a stream of trades. -/
def handedBack (aggregator : BarAggregator) : List TradePrint → List Bar
  | [] => []
  | print :: rest =>
    (aggregator.onTrade print.price print.qty print.moment).2.toList ++
      (aggregator.onTrade print.price print.qty print.moment).1.handedBack rest

/-- The volume of a list of bars, added up in order in 64-bit arithmetic. -/
def totalVolume (bars : List Bar) : Int64 :=
  bars.foldl (fun total bar => total + bar.volume) 0

/-- A bar summarises a run of trades: every trade of the run lies in the bucket it starts, it
opens at the first price and closes at the last, its high and low are prices of the run that no
other price of the run is above, respectively below, its volume is the run's quantity and it
counts the run's trades. -/
structure Summarises (interval : Duration) (bar : Bar) (run : List TradePrint) : Prop where
  start : ∀ print ∈ run, bar.start = print.moment.truncate interval
  openPrice : ∀ first ∈ run.head?, bar.openPrice = first.price
  close : ∀ last ∈ run.getLast?, bar.close = last.price
  high : ∃ top ∈ run, bar.high = top.price ∧ ∀ other ∈ run, other.price.value ≤ bar.high.value
  low : ∃ bottom ∈ run, bar.low = bottom.price ∧ ∀ other ∈ run, bar.low.value ≤ other.price.value
  volume : bar.volume = volumeOf run
  trades : bar.trades = run.length

/-- Adding the quantities of a run to a running total adds the run's volume. -/
theorem foldl_add_qty (start : Int64) (run : List TradePrint) :
    run.foldl (fun total print => total + print.qty) start = start + volumeOf run := by
  induction run generalizing start with
  | nil => exact (Int64.add_zero start).symm
  | cons print rest ih =>
    rw [volumeOf, List.foldl_cons, List.foldl_cons, ih, ih (0 + print.qty), Int64.zero_add,
      Int64.add_assoc]

theorem foldl_add_volume (start : Int64) (bars : List Bar) :
    bars.foldl (fun total bar => total + bar.volume) start = start + totalVolume bars := by
  induction bars generalizing start with
  | nil => exact (Int64.add_zero start).symm
  | cons bar rest ih =>
    rw [totalVolume, List.foldl_cons, List.foldl_cons, ih, ih (0 + bar.volume), Int64.zero_add,
      Int64.add_assoc]

theorem volumeOf_append (first second : List TradePrint) :
    volumeOf (first ++ second) = volumeOf first + volumeOf second := by
  rw [volumeOf, List.foldl_append, foldl_add_qty, ← volumeOf]

theorem volumeOf_concat (run : List TradePrint) (print : TradePrint) :
    volumeOf (run ++ [print]) = volumeOf run + print.qty := by
  simp [volumeOf]

variable {interval : Duration} {bar : Bar} {run : List TradePrint} {print : TradePrint}

/-- The bar a trade opens summarises the run of that trade alone. -/
theorem summarises_opening (interval : Duration) (print : TradePrint) :
    Summarises interval
      (Bar.add (opening (print.moment.truncate interval) print.price) print.price print.qty)
      [print] where
  start := by simp [Bar.add, opening]
  openPrice := by simp [Bar.add, opening]
  close := by simp [Bar.add]
  high := ⟨print, by simp, by simp [Bar.add, opening], by simp [Bar.add, opening]⟩
  low := ⟨print, by simp, by simp [Bar.add, opening], by simp [Bar.add, opening]⟩
  volume := by simp [Bar.add, opening, volumeOf]
  trades := by simp [Bar.add, opening]

/-- The price a bar keeps as its extreme: a price of the run with every price of the run on one
side of it, in the order `le`. Taking the new price when the old extreme is not already on its
far side keeps the extreme of the longer run. -/
theorem extreme_concat (le : ℚ → ℚ → Prop) [DecidableRel le] (total : ∀ a b, le a b ∨ le b a)
    (trans : ∀ a b c, le a b → le b c → le a c) (refl : ∀ a, le a a) {run : List TradePrint}
    {print : TradePrint} {best updated : Decimal}
    (extreme : ∃ top ∈ run, best = top.price ∧ ∀ other ∈ run, le other.price.value best.value)
    (choice : updated = if le print.price.value best.value then best else print.price) :
    ∃ top ∈ run ++ [print], updated = top.price ∧
      ∀ other ∈ run ++ [print], le other.price.value updated.value := by
  obtain ⟨top, member, isTop, bounded⟩ := extreme
  by_cases kept : le print.price.value best.value
  · rw [if_pos kept] at choice
    subst choice
    refine ⟨top, List.mem_append_left _ member, isTop, fun other member' => ?_⟩
    rcases List.mem_append.mp member' with old | added
    · exact bounded other old
    · rw [List.mem_singleton.mp added]
      exact kept
  · rw [if_neg kept] at choice
    subst choice
    -- the new price is beyond the old extreme, so beyond every price before it
    have beyond : le best.value print.price.value := (total _ _).resolve_left kept
    refine ⟨print, by simp, rfl, fun other member' => ?_⟩
    rcases List.mem_append.mp member' with old | added
    · exact trans _ _ _ (bounded other old) beyond
    · rw [List.mem_singleton.mp added]
      exact refl _

/-- A trade in the bar's bucket added to the bar extends the run it summarises. -/
theorem Summarises.add (summary : Summarises interval bar run) (nonempty : run ≠ [])
    (bucket : bar.start = print.moment.truncate interval) :
    Summarises interval (Bar.add bar print.price print.qty) (run ++ [print]) where
  start := by
    intro other member
    rcases List.mem_append.mp member with old | added
    · exact summary.start other old
    · rw [List.mem_singleton.mp added]
      exact bucket
  openPrice := by
    rw [List.head?_append_of_ne_nil _ nonempty]
    exact summary.openPrice
  close := by simp [Bar.add]
  high := by
    refine extreme_concat (· ≤ ·) le_total (fun _ _ _ => le_trans) le_refl summary.high ?_
    by_cases rises : bar.high.value < print.price.value <;>
      simp [Bar.add, rises, not_lt.mp]
  low := by
    refine extreme_concat (fun a b => b ≤ a) (fun a b => le_total b a)
      (fun _ _ _ first second => le_trans second first) le_refl summary.low ?_
    by_cases falls : print.price.value < bar.low.value <;>
      simp [Bar.add, falls, not_lt.mp]
  volume := by rw [volumeOf_concat, ← summary.volume]; rfl
  trades := by simp [Bar.add, summary.trades]

variable {aggregator : BarAggregator} {price : Decimal} {qty : Int64} {moment : Instant}

theorem onTrade_of_none (empty : aggregator.current = none) :
    aggregator.onTrade price qty moment =
      ({ aggregator with
         current :=
           some (Bar.add (opening (moment.truncate aggregator.interval) price) price qty) },
       none) := by
  simp [onTrade, empty]

theorem onTrade_of_same (holding : aggregator.current = some bar)
    (same : bar.start = moment.truncate aggregator.interval) :
    aggregator.onTrade price qty moment =
      ({ aggregator with current := some (Bar.add bar price qty) }, none) := by
  simp [onTrade, holding, same]

theorem onTrade_of_apart (holding : aggregator.current = some bar)
    (apart : bar.start ≠ moment.truncate aggregator.interval) :
    aggregator.onTrade price qty moment =
      ({ aggregator with
         closed := (aggregator.closed ++ [bar]).drop
           ((aggregator.closed ++ [bar]).length - aggregator.keep),
         current :=
           some (Bar.add (opening (moment.truncate aggregator.interval) price) price qty) },
       some bar) := by
  simp [onTrade, holding, apart]

theorem onTrade_interval (aggregator : BarAggregator) (price : Decimal) (qty : Int64)
    (moment : Instant) :
    (aggregator.onTrade price qty moment).1.interval = aggregator.interval := by
  unfold onTrade
  split
  · dsimp only
    split <;> rfl
  · rfl

theorem onTrade_keep (aggregator : BarAggregator) (price : Decimal) (qty : Int64)
    (moment : Instant) : (aggregator.onTrade price qty moment).1.keep = aggregator.keep := by
  unfold onTrade
  split
  · dsimp only
    split <;> rfl
  · rfl

@[simp] theorem feed_nil : aggregator.feed [] = aggregator := rfl

@[simp] theorem feed_cons (rest : List TradePrint) :
    aggregator.feed (print :: rest) =
      (aggregator.onTrade print.price print.qty print.moment).1.feed rest := rfl

theorem feed_interval (prints : List TradePrint) :
    (aggregator.feed prints).interval = aggregator.interval := by
  induction prints generalizing aggregator with
  | nil => rfl
  | cons print rest ih => rw [feed_cons, ih, onTrade_interval]

theorem feed_keep (prints : List TradePrint) : (aggregator.feed prints).keep = aggregator.keep := by
  induction prints generalizing aggregator with
  | nil => rfl
  | cons print rest ih => rw [feed_cons, ih, onTrade_keep]

@[simp] theorem new_interval (interval : Duration) (keep : Int) :
    (new interval keep).interval = interval := rfl

/-- A fresh aggregator keeps at least one closed bar. -/
theorem new_keep (interval : Duration) (keep : Int) :
    (new interval keep).keep = (max keep 1).toNat := by
  unfold new
  split <;> dsimp only <;> omega

/-- The aggregator holds the bars of a stream split into its finished runs `done` and the run in
progress `current`: its closed bars summarise the last `keep` finished runs, and its bar in
progress summarises the current run. -/
structure Holds (aggregator : BarAggregator) (done : List (List TradePrint))
    (current : List TradePrint) : Prop where
  closed : List.Forall₂ (Summarises aggregator.interval) aggregator.closed
    (done.drop (done.length - aggregator.keep))
  current : ∃ bar, aggregator.current = some bar ∧ Summarises aggregator.interval bar current

variable {done : List (List TradePrint)} {current : List TradePrint}

/-- The first trade opens the first run. -/
theorem holds_first (empty : aggregator.current = none) (none_closed : aggregator.closed = [])
    (print : TradePrint) :
    Holds (aggregator.onTrade print.price print.qty print.moment).1 [] [print] := by
  rw [onTrade_of_none empty]
  exact ⟨by simp [none_closed], ⟨_, rfl, summarises_opening _ print⟩⟩

/-- A trade in the bucket of the run in progress extends it. -/
theorem Holds.onTrade_same (holds : Holds aggregator done current) (nonempty : current ≠ [])
    (same : sameBucket aggregator.interval (current.getLast nonempty) print = true) :
    Holds (aggregator.onTrade print.price print.qty print.moment).1 done (current ++ [print]) := by
  obtain ⟨bar, holding, summary⟩ := holds.current
  have bucket : bar.start = print.moment.truncate aggregator.interval := by
    rw [summary.start _ (List.getLast_mem nonempty)]
    exact beq_iff_eq.mp same
  rw [onTrade_of_same holding bucket]
  exact ⟨holds.closed, ⟨_, rfl, summary.add nonempty bucket⟩⟩

/-- A trade outside the bucket of the run in progress finishes it: its bar joins the kept closed
bars, and the trade opens a new run. -/
theorem Holds.onTrade_new (holds : Holds aggregator done current) (nonempty : current ≠ [])
    (one : 1 ≤ aggregator.keep)
    (apart : sameBucket aggregator.interval (current.getLast nonempty) print = false) :
    Holds (aggregator.onTrade print.price print.qty print.moment).1 (done ++ [current])
      [print] := by
  obtain ⟨bar, holding, summary⟩ := holds.current
  have bucket : bar.start ≠ print.moment.truncate aggregator.interval := by
    rw [summary.start _ (List.getLast_mem nonempty)]
    exact beq_eq_false_iff_ne.mp apart
  rw [onTrade_of_apart holding bucket]
  refine ⟨?_, ⟨_, rfl, summarises_opening _ print⟩⟩
  dsimp only
  -- the kept bars and the kept runs both drop the same count from lists of the same length
  have sameLength := holds.closed.length_eq
  rw [drop_concat_keep done current one, ← sameLength, List.length_append, List.length_singleton]
  exact List.forall₂_drop _ (List.rel_append holds.closed (List.Forall₂.cons summary .nil))

/-- What the aggregator hands back for the next trade: nothing when the trade stays in the bucket
of the run in progress, and otherwise the bar of that run. -/
theorem Holds.onTrade_snd (holds : Holds aggregator done current) (nonempty : current ≠ [])
    (print : TradePrint) :
    ∃ bar, Summarises aggregator.interval bar current ∧
      (aggregator.onTrade print.price print.qty print.moment).2 =
        if sameBucket aggregator.interval (current.getLast nonempty) print then none
        else some bar := by
  obtain ⟨bar, holding, summary⟩ := holds.current
  refine ⟨bar, summary, ?_⟩
  have start := summary.start _ (List.getLast_mem nonempty)
  by_cases same : bar.start = print.moment.truncate aggregator.interval
  · have related : sameBucket aggregator.interval (current.getLast nonempty) print = true := by
      rw [sameBucket, ← start, same, beq_self_eq_true]
    rw [onTrade_of_same holding same, related, if_pos rfl]
  · have unrelated : sameBucket aggregator.interval (current.getLast nonempty) print = false := by
      rw [sameBucket, ← start]
      exact beq_eq_false_iff_ne.mpr same
    rw [onTrade_of_apart holding same, unrelated]
    rfl

/-- Along any stream of further trades the invariant is kept: the whole stream splits into
finished runs, more of them by the runs `later` that the stream finished, and a run in progress
that the aggregator holds; and the bars handed back on the way summarise `later`. -/
theorem Holds.feed (holds : Holds aggregator done current)
    (split : RunSplit (sameBucket aggregator.interval) done current) (one : 1 ≤ aggregator.keep)
    (prints : List TradePrint) :
    ∃ later current', (done ++ later).flatten ++ current' = done.flatten ++ current ++ prints ∧
      RunSplit (sameBucket aggregator.interval) (done ++ later) current' ∧
      Holds (aggregator.feed prints) (done ++ later) current' ∧
      List.Forall₂ (Summarises aggregator.interval) (aggregator.handedBack prints) later := by
  induction prints generalizing aggregator done current with
  | nil => exact ⟨[], current, by simp, by simpa using split, by simpa using holds, .nil⟩
  | cons print rest ih =>
    have interval := onTrade_interval aggregator print.price print.qty print.moment
    have keep := onTrade_keep aggregator print.price print.qty print.moment
    obtain ⟨bar, summary, handed⟩ := holds.onTrade_snd split.nonempty print
    -- the trade either extends the run in progress or finishes it
    cases related : sameBucket aggregator.interval (current.getLast split.nonempty) print with
    | true =>
      obtain ⟨later, current', joined, split', holds', formed⟩ :=
        ih (holds.onTrade_same split.nonempty related)
          (by rw [interval]; exact split.extend print related) (by rwa [keep])
      rw [interval] at split' formed
      refine ⟨later, current', by simpa using joined, split', holds', ?_⟩
      rw [handedBack, handed, related]
      simpa using formed
    | false =>
      obtain ⟨later, current', joined, split', holds', formed⟩ :=
        ih (holds.onTrade_new split.nonempty one related)
          (by rw [interval]; exact split.close print related) (by rwa [keep])
      rw [interval] at split' formed
      refine ⟨current :: later, current', by simpa using joined, by simpa using split',
        by simpa using holds', ?_⟩
      rw [handedBack, handed, related]
      exact .cons summary formed

/-- Bars that summarise runs one for one carry the quantity of all the runs' trades. -/
theorem totalVolume_of_summarise {bars : List Bar} {runs : List (List TradePrint)}
    (summaries : List.Forall₂ (Summarises interval) bars runs) :
    totalVolume bars = volumeOf runs.flatten := by
  induction summaries with
  | nil => rfl
  | @cons bar run bars runs summary _ ih =>
    rw [totalVolume, List.foldl_cons, foldl_add_volume, ih, List.flatten_cons,
      volumeOf_append, Int64.zero_add, summary.volume]

/-- The bars are the kept closed bars, then the bar in progress. -/
theorem Holds.bars (holds : Holds aggregator done current) :
    List.Forall₂ (Summarises aggregator.interval) aggregator.bars
      (done.drop (done.length - aggregator.keep) ++ [current]) := by
  obtain ⟨bar, holding, summary⟩ := holds.current
  rw [BarAggregator.bars, holding]
  exact List.rel_append holds.closed (.cons summary .nil)

/-- A fresh aggregator fed a nonempty stream holds it split into its finished runs and the run
in progress, and the bars it handed back summarise the finished runs. -/
theorem Holds.of_new (interval : Duration) (keep : Int) {prints : List TradePrint}
    (nonempty : prints ≠ []) :
    ∃ done current, prints = done.flatten ++ current ∧
      RunSplit (sameBucket interval) done current ∧
      Holds ((new interval keep).feed prints) done current ∧
      List.Forall₂ (Summarises interval) ((new interval keep).handedBack prints) done := by
  obtain ⟨first, rest, rfl⟩ := List.exists_cons_of_ne_nil nonempty
  have opening : (new interval keep).onTrade first.price first.qty first.moment = _ :=
    onTrade_of_none rfl
  have started := holds_first (show (new interval keep).current = none from rfl) rfl first
  have one : 1 ≤ ((new interval keep).onTrade first.price first.qty first.moment).1.keep := by
    rw [onTrade_keep, new_keep]
    omega
  obtain ⟨done, current, joined, split, holds, formed⟩ :=
    started.feed (RunSplit.single first) one rest
  rw [onTrade_interval, new_interval] at split formed
  refine ⟨done, current, by simpa using joined.symm, by simpa using split, by simpa using holds, ?_⟩
  have nothingBack : ((new interval keep).onTrade first.price first.qty first.moment).2 = none := by
    rw [opening]
  rw [handedBack, nothingBack]
  simpa using formed

/-- The trade the bar subscriber takes from an event: the event's trade when it is on the buy
side, priced and sized by its execution, at `moment`. -/
def buyPrint? (event : MarketEvent) (moment : Instant) : Option TradePrint :=
  ((Trade.ofEvent? event).filter fun trade => trade.header.side.isBuy).map fun trade =>
    ⟨trade.execution.execPrice, trade.execution.execQty, moment⟩

/-- The bar subscriber of a desk feeds its aggregator the buy-side trade of the event, if any, at
the desk's clock, and asks nothing of the book. -/
theorem deskDelivery_of_bars (audience : DeskAudience) (book : OrderBook DeskRole)
    (subscription : Subscription DeskRole) (event : MarketEvent)
    (role : subscription.role = .bars) :
    deskDelivery audience book subscription event =
      ({ audience with
         bars := audience.bars.map fun bars => bars.feed (buyPrint? event audience.clock).toList },
       Reaction.none) := by
  obtain ⟨published, scripts, records, bars, clock, clients, clientEvents, logs⟩ := audience
  cases bars with
  | none => simp [deskDelivery, role]
  | some bars =>
    cases traded : Trade.ofEvent? event with
    | none => simp [deskDelivery, role, traded, buyPrint?]
    | some trade =>
      by_cases buying : trade.header.side.isBuy <;>
        simp [deskDelivery, role, traded, buyPrint?, buying, Option.filter]

end BarAggregator

end Bourse
