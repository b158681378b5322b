import Bourse.Gateway.Basic
import Bourse.Replay.Simulator
import Bourse.Book.Bars

/-!
# The trading floor

A running exchange has one order book, and everything else follows it as a subscriber, in this
order: the market-data publisher, which keeps every event for the market-data feed; the bar
aggregator, when bars are kept, which counts the buy side of each trade into the bar of the
time the trade is seen; one portfolio per client of the gateway, in the order the clients first
connected; and, while a replay runs, the replay's creditor.

The floor is what these subscribers keep. It hosts both the gateway and the replay, so orders
from sessions and replayed rows meet in the same book.
-/

namespace Bourse

/-- The subscribers of the exchange's book. -/
inductive FloorRole where
  /-- The market-data publisher. -/
  | marketData
  /-- The bar aggregator. -/
  | bars
  /-- The portfolio of a client. -/
  | portfolio (client : String)
  /-- The creditor of a running replay. -/
  | credits
  deriving Repr, DecidableEq

/-- What the subscribers of the exchange's book keep. -/
structure Floor where
  /-- Every event published, oldest first. -/
  published : Array MarketEvent
  /-- The bars, when they are kept. -/
  bars : Option BarAggregator
  gateway : GatewayState
  /-- The credits of the running replay. -/
  credits : MatchCredits
  /-- The owner of the replayed orders. -/
  owner : String
  /-- The time now. -/
  now : Instant
  deriving Repr

/-- How the subscribers of the exchange's book take its events. -/
def floorDelivery : Delivery FloorRole Floor := fun floor _ subscription event =>
  match subscription.role with
  | .marketData => ({ floor with published := floor.published.push event }, Reaction.none)
  | .bars =>
    match floor.bars, Trade.ofEvent? event with
    | some bars, some trade =>
      if trade.header.side.isBuy then
        let (bars, _) := bars.onTrade trade.execution.execPrice trade.execution.execQty floor.now
        ({ floor with bars := some bars }, Reaction.none)
      else (floor, Reaction.none)
    | _, _ => (floor, Reaction.none)
  | .portfolio id => ({ floor with gateway := floor.gateway.observe id event }, Reaction.none)
  | .credits => ({ floor with credits := floor.credits.observe floor.owner event }, Reaction.none)

namespace Floor

/-- The floor at a time: the gateway works at it and trades are counted into its bar. -/
def atTime (floor : Floor) (moment : Instant) : Floor :=
  { floor with now := moment, gateway := floor.gateway.atTime moment }

end Floor

instance : GatewayHost FloorRole Floor where
  deliver := floorDelivery
  portfolio := .portfolio
  gateway := (·.gateway)
  withGateway := fun floor gateway => { floor with gateway }

instance : ReplayHost FloorRole Floor where
  deliver := floorDelivery
  creditor := .credits
  credits := (·.credits)
  withCredits := fun floor credits => { floor with credits }
  atTime := Floor.atTime

end Bourse
