import Bourse.Book.Desk
import Bourse.Event.View

/-!
# Desk reports as JSON

The JSON view of what a desk step did. A refusal is an object naming the kind of error and its
message; a broken invariant is reported under `panic` the same way. Beside the result a report
lists the events published, the book's metrics (orders a trade or delete could not find,
subscribers that failed, traded quantities, kinds of events published), and, when there are
any, what the scripted subscribers did, what clients learned, the alerts raised and the lines
each client's trade log wrote.
-/

namespace Bourse

/-- An error as JSON: its kind and its message. -/
def errorJson (kind message : String) : Json.Value :=
  .object [("error", .string kind), ("message", .string message)]

/-- The kind of a refusal. -/
def BookError.kind : BookError → String
  | .wrongSymbol _ => "market.ErrWrongSymbol"
  | .invalid _ => "event.ErrInvalid"
  | .duplicate _ => "market.ErrDuplicateOrder"

/-- A refusal as JSON. -/
def BookError.toJson (error : BookError) : Json.Value := errorJson error.kind error.message

/-- The kind of a broken invariant. -/
def invariantKind : String := "market.ErrInvariant"

/-- A bar as JSON. -/
def Bar.toJson (bar : Bar) : Json.Value :=
  .object [("start", .string bar.start.toRfc3339), ("open", .string bar.openPrice.toText),
    ("high", .string bar.high.toText), ("low", .string bar.low.toText),
    ("close", .string bar.close.toText), ("volume", .ofInt64 bar.volume),
    ("trades", .ofNat bar.trades)]

/-- An alert as JSON, its field values as plain text. -/
def Alert.toJson (alert : Alert) : Json.Value :=
  .object [("level", .string alert.level.name), ("message", .string alert.message),
    ("fields", .object (alert.fields.map fun (name, value) => (name, .string value.toText)))]

/-- A snapshot as JSON, with the bars when there are some. -/
def Snapshot.toJson (snapshot : Snapshot) (bars : Option (List Bar)) : Json.Value :=
  let base : List (String × Json.Value) :=
    [("symbol", .string snapshot.symbol), ("best_bid", .string snapshot.bestBid.toText),
      ("best_offer", .string snapshot.bestOffer.toText),
      ("spread", .string snapshot.spread.toText),
      ("bids", .array (snapshot.bids.map MarketEvent.toJson)),
      ("offers", .array (snapshot.offers.map MarketEvent.toJson)),
      ("bid_volume", .ofInt64 snapshot.bidVolume), ("offer_volume", .ofInt64 snapshot.offerVolume),
      ("trade_count", .ofNat snapshot.tradeCount)]
  match bars with
  | some bars => .object (base ++ [("bars", .array (bars.map Bar.toJson))])
  | none => .object base

/-- A trade as JSON: the event it is. -/
def Trade.toJson (trade : Trade) : Json.Value := trade.toEvent.toJson

/-- A failed replace as JSON. -/
def ReplaceError.toJson : ReplaceError → Json.Value
  | .unknownOrder => errorJson "portfolio.ErrUnknownOrder" unknownOpenOrder
  | .refused error => error.toJson

/-- A step's result as JSON. -/
def DeskResult.toJson : DeskResult → Json.Value
  | .ok => .string "ok"
  | .refused error => error.toJson
  | .broken message => .object [("panic", errorJson invariantKind message)]
  | .found order => .object [("found", .ofOption MarketEvent.toJson order)]
  | .deleted present => .object [("found", .bool present)]
  | .snapshot taken bars => taken.toJson bars
  | .best bid offer symbol =>
    .object [("bid", .string bid.toText), ("offer", .string offer.toText),
      ("symbol", .string symbol)]
  | .trades tape => .array (tape.map Trade.toJson)
  | .cancelled done => .object [("ok", .bool done)]
  | .replaced original next error =>
    let base : List (String × Json.Value) :=
      [("orig", .ofOption MarketEvent.toJson original), ("next", next.toJson)]
    match error with
    | some e => .object (base ++ [("error", e.toJson)])
    | none => .object base
  | .state s =>
    .object [("client", .string s.client), ("open_bids", .ofNat s.openBids),
      ("open_offers", .ofNat s.openOffers), ("net", .ofInt64 s.net),
      ("fills", .array (s.fills.map Trade.toJson)), ("log_lines", .ofNat s.logRecords)]

/-- What a scripted subscriber did, as JSON. -/
def ScriptRecord.toJson (record : ScriptRecord) : Json.Value :=
  let base : List (String × Json.Value) :=
    [("sub", .string record.subscriber), ("did", .string record.action)]
  match record.lookup with
  | some (found, bid, offer, symbol) =>
    .object (base ++ [("found", .ofOption MarketEvent.toJson found), ("bid", .string bid.toText),
      ("offer", .string offer.toText), ("symbol", .string symbol)])
  | none => .object base

/-- The book's metrics among its notes, as JSON. -/
def metricsJson (notes : List BookNote) : Json.Value :=
  .object [
    ("lookup_miss", .array (notes.filterMap fun
      | .lookupMiss operation => some (.string operation)
      | _ => none)),
    ("subscriber_failures", .array (notes.filterMap fun
      | .subscriberFailed name => some (.string name)
      | _ => none)),
    ("trade_qty", .array (notes.filterMap fun
      | .traded trade => some (.ofInt64 trade.execution.execQty)
      | _ => none)),
    ("book_events", .array (notes.filterMap fun
      | .published kind => some (.string kind.name)
      | _ => none))]

/-- A member that is there only when its list is not empty. -/
def optionalMember {α : Type} (name : String) (items : List α) (encode : List α → Json.Value) :
    List (String × Json.Value) :=
  if items.isEmpty then [] else [(name, encode items)]

/-- A step's report as JSON. -/
def DeskReport.toJson (report : DeskReport) : List (String × Json.Value) :=
  let alerts := report.notes.filterMap fun
    | .alert alert => some alert
    | _ => none
  [("result", report.result.toJson), ("published", .array (report.published.map MarketEvent.toJson)),
    ("metrics", metricsJson report.notes)] ++
  optionalMember "reactions" report.records (fun rs => .array (rs.map ScriptRecord.toJson)) ++
  optionalMember "client_events" report.clientEvents (fun es => .array (es.map fun (client, ce) =>
    .object [("client", .string client), ("type", .string ce.type.name),
      ("event", ce.event.toJson)])) ++
  optionalMember "alerts" alerts (fun as => .array (as.map Alert.toJson)) ++
  optionalMember "trade_log" report.tradeLines (fun ls => .object (ls.map fun (client, lines) =>
    (client, .array (lines.map Json.Value.string))))

end Bourse
