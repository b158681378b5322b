import Bourse.Decimal.Basic
import Bourse.Time.Instant

/-!
# Trade bars

A bar summarises the trades of one time bucket: the first, highest, lowest and last price,
the quantity and the number of trades. Buckets start at multiples of the interval counted from
the zero instant. A trade in a new bucket closes the current bar; the aggregator keeps the last
`keep` closed bars and the bar in progress.
-/

namespace Bourse

/-- The trades of one time bucket. -/
structure Bar where
  /-- Where the bucket starts. -/
  start : Instant
  /-- The first price. -/
  openPrice : Decimal
  /-- The highest price. -/
  high : Decimal
  /-- The lowest price. -/
  low : Decimal
  /-- The last price. -/
  close : Decimal
  /-- The quantity traded. -/
  volume : Int64
  /-- The number of trades. -/
  trades : Nat
  deriving Repr, Inhabited

/-- Bars being built from a stream of trades. -/
structure BarAggregator where
  /-- The length of a bucket. -/
  interval : Duration
  /-- How many closed bars are kept. -/
  keep : Nat
  /-- The closed bars kept, oldest first. -/
  closed : List Bar
  /-- The bar in progress. -/
  current : Option Bar
  deriving Repr, Inhabited

namespace BarAggregator

/-- An aggregator with no bars; a `keep` below one keeps one. -/
def new (interval : Duration) (keep : Int) : BarAggregator :=
  ⟨interval, if keep ≤ 0 then 1 else keep.toNat, [], none⟩

/-- The bar a trade opens. -/
def opening (start : Instant) (price : Decimal) : Bar := ⟨start, price, price, price, price, 0, 0⟩

/-- A bar with one more trade. -/
def Bar.add (bar : Bar) (price : Decimal) (qty : Int64) : Bar :=
  { bar with high := if bar.high.lt price then price else bar.high,
             low := if price.lt bar.low then price else bar.low,
             close := price, volume := bar.volume + qty, trades := bar.trades + 1 }

/-- Adds a trade at `moment`; gives the bar it closed, if it closed one. -/
def onTrade (bars : BarAggregator) (price : Decimal) (qty : Int64) (moment : Instant) :
    BarAggregator × Option Bar :=
  let start := moment.truncate bars.interval
  match bars.current with
  | some bar =>
    if bar.start == start then ({ bars with current := some (Bar.add bar price qty) }, none)
    else
      let closed := bars.closed ++ [bar]
      let closed := closed.drop (closed.length - bars.keep)
      ({ bars with closed, current := some (Bar.add (opening start price) price qty) }, some bar)
  | none => ({ bars with current := some (Bar.add (opening start price) price qty) }, none)

/-- The closed bars kept and the bar in progress, oldest first. -/
def bars (aggregator : BarAggregator) : List Bar :=
  aggregator.closed ++ aggregator.current.toList

end BarAggregator

end Bourse
