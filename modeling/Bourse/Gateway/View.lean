import Bourse.Gateway.Scenario

/-!
# Gateway reports as JSON

The JSON view of a gateway step: what each session received, the market data, the counts, the
book and the portfolios, with the step's own answer beside them.
-/

namespace Bourse

/-- A session error as JSON, with its kind. -/
def SessionError.toJson (error : SessionError) : Json.Value :=
  match error with
  | .connected _ => errorJson "gateway.ErrClientConnected" error.message
  | .closed => errorJson "gateway.ErrSessionClosed" error.message

/-- The members a step's answer adds to its report. -/
def GatewayResult.members : GatewayResult → List (String × Json.Value)
  | .done => []
  | .lateSubmit error => [("late_submit", error.toJson)]
  | .added error => [("result", Json.Value.ofOption BookError.toJson error)]
  | .deleted found => [("result", .object [("found", .bool found)])]
  | .connects first second =>
    [("first", Json.Value.ofOption SessionError.toJson first),
      ("second", Json.Value.ofOption SessionError.toJson second)]
  | .broken message => [("result", .object [("panic", errorJson invariantKind message)])]

/-- The book's state as JSON. -/
def BookSummary.toJson (book : BookSummary) : Json.Value :=
  .object [("best_bid", .string book.bestBid.toText), ("best_offer", .string book.bestOffer.toText),
    ("bids", .ofNat book.bids), ("offers", .ofNat book.offers),
    ("bid_volume", .ofInt64 book.bidVolume), ("offer_volume", .ofInt64 book.offerVolume),
    ("trades", .ofNat book.trades)]

/-- A portfolio's state as JSON. -/
def PortfolioSummary.toJson (p : PortfolioSummary) : Json.Value :=
  .object [("open_bids", .ofNat p.openBids), ("open_offers", .ofNat p.openOffers),
    ("net", .ofInt64 p.net), ("fills", .ofNat p.fills)]

/-- A step's report as JSON. -/
def GatewayReport.toJson (report : GatewayReport) : Json.Value :=
  .object (report.result.members ++
    [("out", .object (report.out.map fun (client, messages) =>
        (client, .array (messages.map Outbound.toJson)))),
      ("md", .array (report.marketData.map MarketDataEntry.toJson)),
      ("metrics", .array (report.metrics.map fun c => .string c.text)),
      ("book", report.book.toJson),
      ("portfolios", .object (report.portfolios.map fun (client, p) => (client, p.toJson)))])

/-- Why a step's report cannot be written as JSON, if it cannot: the first time among its
messages and market data that cannot be written. -/
def GatewayReport.jsonError? (report : GatewayReport) : Option String :=
  (report.marketData.findSome? fun entry => entry.time.jsonTimeError?) <|>
    (report.out.findSome? fun (_, messages) => messages.findSome? Outbound.jsonError?)

/-- The reports of a scenario's steps as JSON, unless one of them cannot be written. -/
def encodeReports (reports : List GatewayReport) : Except String Json.Value :=
  match reports.findSome? GatewayReport.jsonError? with
  | some problem => .error problem
  | none => .ok (.array (reports.map GatewayReport.toJson))

end Bourse
