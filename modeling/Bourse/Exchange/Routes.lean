import Bourse.Exchange.Lifecycle
import Bourse.Net.Url
import Bourse.Text.Integer

/-!
# The exchange's endpoints

The server answers these requests:

| method | path | answer |
|---|---|---|
| GET | `/health` | `healthy` (200) or `unhealthy` with the problem (503) |
| GET | `/metrics` | the metrics in the text exposition format |
| GET | `/book` | the book: best prices, spread, volumes, trade count, resting orders, time |
| GET | `/trades?from=N` | the trades on the tape from the `N`th on (`N` at least zero) |
| GET | `/bars` | the bars, when bars are kept (404 otherwise) |
| GET | `/clients` | each client's open orders, trade count and net position, by id |
| GET | `/simulation` | whether a replay is configured, and then whether it runs and its delay |
| POST | `/simulation/stop` | asks the replay to stop (202), when one is configured (404 otherwise) |
| GET | `/fix` | an order session for the client `SenderCompID` (default: the configured client) |
| GET | `/marketdata` | the market-data stream, when market data is streamed |

JSON answers end with a newline; error texts are plain text ending with a newline. A path that
is not served is answered 404, and a served path asked with another method 405, with no body;
so is a method the server does not know.

The two session endpoints answer only a request to upgrade the connection. An order session
first makes the client known (its portfolio then follows the book); a client that already has a
session is refused (409). A plain request is refused as a bad request, and for `/fix` the
session it opened closes again.
-/

namespace Bourse

/-- A request to the exchange's server. -/
structure Request where
  method : String
  /-- The path, with its query after `?`. -/
  target : String
  /-- Whether the client asks to upgrade to a session. -/
  upgrade : Bool
  deriving Repr

/-- A response of the exchange's server. -/
structure Response where
  /-- The status code. -/
  status : Nat
  /-- The type of the body; empty when there is none. -/
  contentType : String
  body : String
  deriving Repr

namespace Response

/-- A JSON answer. -/
def json (status : Nat) (value : Json.Value) : Response :=
  ⟨status, "application/json", Json.render true value ++ "\n"⟩

/-- A plain-text error. -/
def text (status : Nat) (message : String) : Response :=
  ⟨status, "text/plain; charset=utf-8", message ++ "\n"⟩

/-- The answer for a path that is not served. -/
def notFound : Response := text 404 "404 page not found"

/-- The answer for a method that a path does not take. -/
def methodNotAllowed : Response := ⟨405, "", ""⟩

/-- The content type of the metrics' text exposition. -/
def metricsType : String := "text/plain; version=0.0.4; charset=utf-8"

end Response

/-- What the server did with a request. -/
inductive Answer where
  /-- It responded. -/
  | respond (response : Response)
  /-- It upgraded the connection to an order session of a client. -/
  | orders (client : String)
  /-- It upgraded the connection to the market-data stream. -/
  | marketData
  deriving Repr

/-- The endpoints. -/
inductive Endpoint where
  | health
  | metrics
  | book
  | trades
  | bars
  | clients
  | simulation
  | simulationStop
  | fix
  | marketData
  deriving Repr, DecidableEq

namespace Endpoint

/-- The endpoint at a path and the method it takes. -/
def ofPath? (path : String) : Option (Endpoint × String) :=
  match path with
  | "/health" => some (.health, "GET")
  | "/metrics" => some (.metrics, "GET")
  | "/book" => some (.book, "GET")
  | "/trades" => some (.trades, "GET")
  | "/bars" => some (.bars, "GET")
  | "/clients" => some (.clients, "GET")
  | "/simulation" | "/simulation/" => some (.simulation, "GET")
  | "/simulation/stop" => some (.simulationStop, "POST")
  | "/fix" => some (.fix, "GET")
  | "/marketdata" => some (.marketData, "GET")
  | _ => none

end Endpoint

/-- The methods the server knows. -/
def knownMethods : List String :=
  ["CONNECT", "DELETE", "GET", "HEAD", "OPTIONS", "PATCH", "POST", "PUT", "TRACE"]

/-- A resting order as JSON. -/
def orderViewJson (order : MarketEvent) : Json.Value :=
  let h := order.header
  .object [("clientID", .string h.clientId), ("clientOrderID", .string h.clientOrderId),
    ("side", .string h.side.name), ("orderType", .string h.orderType.name),
    ("price", .string h.price.toText), ("orderQty", .ofInt64 h.orderQty),
    ("remainingQty", .ofInt64 h.remainingQty), ("transactTime", .string h.transactTime.toRfc3339)]

/-- A snapshot of the book as JSON. -/
def bookViewJson (snapshot : Snapshot) : Json.Value :=
  .object [("symbol", .string snapshot.symbol), ("bestBid", .string snapshot.bestBid.toText),
    ("bestOffer", .string snapshot.bestOffer.toText), ("spread", .string snapshot.spread.toText),
    ("bidVolume", .ofInt64 snapshot.bidVolume), ("offerVolume", .ofInt64 snapshot.offerVolume),
    ("tradeCount", .ofNat snapshot.tradeCount), ("bids", .array (snapshot.bids.map orderViewJson)),
    ("offers", .array (snapshot.offers.map orderViewJson)),
    ("timestamp", .string snapshot.timestamp.toRfc3339)]

/-- A trade of the tape as JSON. -/
def tradeViewJson (trade : Trade) : Json.Value :=
  let h := trade.header
  let x := trade.execution
  .object [("kind", .string trade.toEvent.kind.name), ("clientID", .string h.clientId),
    ("clientOrderID", .string h.clientOrderId), ("side", .string h.side.name),
    ("execQty", .ofInt64 x.execQty), ("execPrice", .string x.execPrice.toText),
    ("contraOrderID", .string x.contraOrderId), ("remainingQty", .ofInt64 h.remainingQty),
    ("transactTime", .string h.transactTime.toRfc3339)]

/-- A client's positions as JSON. -/
def clientViewJson (client : GatewayClient) : Json.Value :=
  let p := client.portfolio
  .object [("clientID", .string client.id), ("openBids", .ofNat p.bids.length),
    ("openOffers", .ofNat p.offers.length), ("fills", .ofNat p.fills.size),
    ("netPosition", .ofInt64 p.netPosition)]

/-- An error as a JSON answer. -/
def errorResponse (status : Nat) (message : String) : Response :=
  Response.json status (.object [("error", .string message)])

namespace Exchange

/-- The trades from a position given as text: none, or a count of trades to skip. -/
def tradesFrom (ex : Exchange) (from? : Option String) : Response :=
  let start : Except Unit Int := match from? with
    | none | some "" => .ok 0
    | some text => match readInt64 text with
      | .ok n => if n.toInt < 0 then .error () else .ok n.toInt
      | .error _ => .error ()
  match start with
  | .error () => errorResponse 400 "from must be a non-negative integer"
  | .ok start => Response.json 200 (.array ((ex.book.trades start).map tradeViewJson))

/-- Opens an order session for the client a request names, or the configured client when it
names none. A plain request is refused, and the session it opened closes. -/
def openOrders (ex : Exchange) (named : String) (upgrade : Bool) : Exchange × Answer :=
  let client := if named.isEmpty then ex.settings.exchange.clientId else named
  if client.isEmpty then (ex, .respond (Response.text 400 "SenderCompID is required"))
  else
    match ex.connect client with
    | (ex, some e) => (ex, .respond (Response.text 409 e.message))
    | (ex, none) =>
      if upgrade then (ex, .orders client)
      else (ex.disconnect client, .respond (Response.text 400 "Bad Request"))

/-- Answers a request at an endpoint. -/
def answer (ex : Exchange) (endpoint : Endpoint) (query : String) (upgrade : Bool) :
    Exchange × Answer :=
  let respond (response : Response) : Exchange × Answer := (ex, .respond response)
  match endpoint with
  | .health =>
    respond (match ex.health with
      | none => Response.json 200 (.object [("status", .string "healthy")])
      | some e => Response.json 503 (.object [("error", .string e), ("status", .string "unhealthy")]))
  | .metrics =>
    respond ⟨200, Response.metricsType, String.join (ex.monitor.exposition.map (· ++ "\n"))⟩
  | .book => respond (Response.json 200 (bookViewJson (ex.book.snapshot ex.now)))
  | .trades => respond (ex.tradesFrom (Net.queryValue? query "from"))
  | .bars =>
    respond (match ex.floor.bars with
      | none => errorResponse 404 "bars not enabled"
      | some bars => Response.json 200 (.array (bars.bars.map Bar.toJson)))
  | .clients =>
    let clients := ex.clientIds.filterMap ex.gateway.client?
    respond (Response.json 200 (.array (clients.map clientViewJson)))
  | .simulation =>
    respond (Response.json 200 (match ex.simulator with
      | none => .object [("enabled", .bool false)]
      | some s => .object [("delayMs", .ofInt s.delay.toMillis), ("enabled", .bool true),
          ("running", .bool s.running)]))
  | .simulationStop =>
    match ex.simulator with
    | none => respond (errorResponse 404 "replay not enabled")
    | some s =>
      ({ ex with simulator := some { s with stopRequested := true } },
        .respond (Response.json 202 (.object [("stopping", .bool true)])))
  | .fix => ex.openOrders ((Net.queryValue? query "SenderCompID").getD "") upgrade
  | .marketData =>
    if !ex.feed then respond (Response.text 404 "market data not enabled")
    else if upgrade then (ex, .marketData)
    else respond (Response.text 400 "Bad Request")

/-- Serves a request. -/
def serve (ex : Exchange) (request : Request) : Exchange × Answer :=
  let path := (request.target.splitOn "?").head?.getD ""
  let query := "?".intercalate ((request.target.splitOn "?").drop 1)
  if !knownMethods.contains request.method then (ex, .respond Response.methodNotAllowed)
  else
    match Endpoint.ofPath? path with
    | none => (ex, .respond Response.notFound)
    | some (endpoint, method) =>
      if request.method != method then (ex, .respond Response.methodNotAllowed)
      else ex.answer endpoint query request.upgrade

end Exchange

end Bourse
