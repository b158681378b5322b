import Bourse.Gateway.Basic

/-!
# Gateway sessions

A gateway desk is the gateway with its book, worked through steps. A client connects to get a
session (one at a time); messages the gateway sends reach the session while it is open and are
lost otherwise. A send step connects the clients that watch and the sender, hands the sender's
session one message, closes every session and collects what each one received. Steps can also
write into the book directly, as a replay does, or move the simulation clock.

Each step reports what the sessions received, the market data and counts of the step, and the
state of the book and the portfolios after it.
-/

namespace Bourse

/-- The gateway with its book. -/
structure GatewayDesk where
  book : OrderBook GatewayRole
  /-- The gateway. -/
  state : GatewayState
  deriving Repr

/-- Something to do at the gateway. -/
inductive GatewayStep where
  /-- A client sends bytes; with `again` it sends them once more after its session closed. -/
  | send (client : String) (raw : String) (again : Bool)
  /-- Moves the simulation clock. -/
  | setClock (moment : Instant)
  /-- A client connects while already connected. -/
  | connectTwice (client : String)
  /-- Offers an event to the book directly. -/
  | bookAdd (event : MarketEvent)
  /-- Deletes an order from the book directly. -/
  | bookDelete (event : MarketEvent)
  deriving Repr

/-- What a step answered. -/
inductive GatewayResult where
  /-- Nothing beyond the report. -/
  | done
  /-- The second send of a message, after its session closed. -/
  | lateSubmit (error : SessionError)
  /-- The book's answer to a direct add. -/
  | added (error : Option BookError)
  /-- Whether a direct delete found its order. -/
  | deleted (found : Bool)
  /-- The two connects. -/
  | connects (first second : Option SessionError)
  /-- The book stopped on a broken invariant. -/
  | broken (message : String)
  deriving Repr

/-- The state of the book after a step. -/
structure BookSummary where
  /-- The highest bid, `-1` when none. -/
  bestBid : Decimal
  /-- The lowest offer, `-1` when none. -/
  bestOffer : Decimal
  /-- The number of resting bids. -/
  bids : Nat
  /-- The number of resting offers. -/
  offers : Nat
  /-- The open quantity of the bids. -/
  bidVolume : Int64
  /-- The open quantity of the offers. -/
  offerVolume : Int64
  /-- The number of trades on the tape. -/
  trades : Nat
  deriving Repr

/-- The state of a client's portfolio after a step. -/
structure PortfolioSummary where
  openBids : Nat
  openOffers : Nat
  /-- Bought less sold. -/
  net : Int64
  /-- The number of trades. -/
  fills : Nat
  deriving Repr

/-- What a step did. -/
structure GatewayReport where
  /-- The answer. -/
  result : GatewayResult
  /-- What each session received, by client in order of their ids, for the sessions that
  received something. -/
  out : List (String × List Outbound)
  /-- The market data of the step. -/
  marketData : List MarketDataEntry
  /-- The counts of the step. -/
  metrics : List GatewayCount
  /-- The book afterwards. -/
  book : BookSummary
  /-- The portfolios afterwards, by client in order of connection. -/
  portfolios : List (String × PortfolioSummary)
  deriving Repr

namespace GatewayDesk

/-- A gateway for a book of `symbol` with its constraints, its clock at `clock`. -/
def new (symbol : String) (constraints : SymbolConstraints) (clock : Instant) : GatewayDesk :=
  let book : OrderBook GatewayRole := OrderBook.empty symbol .priceTime
  let (book, _) := book.subscribe "market-data" .marketData
  ⟨book, GatewayState.new symbol constraints clock⟩

/-- Opens a session for a client, making the client on first connection. -/
def connect (desk : GatewayDesk) (id : String) : GatewayDesk × Option SessionError :=
  let (book, state, error) := connectClient desk.book desk.state id
  (⟨book, state⟩, error)

/-- Opens sessions for clients, in order; a client already connected stays so. -/
def connectAll (desk : GatewayDesk) (ids : List String) : GatewayDesk :=
  ids.foldl (fun d id => (d.connect id).1) desk

/-- Closes every session and collects what each received, by client in order of their ids. -/
def closeAll (desk : GatewayDesk) : GatewayDesk × List (String × List Outbound) :=
  let received := desk.state.clients.filterMap fun c =>
    if c.outbox.isEmpty then none else some (c.id, c.outbox.toList)
  let received := received.mergeSort fun a b => decide (a.1 ≤ b.1)
  let clients := desk.state.clients.map fun c => { c with connected := false, outbox := #[] }
  ({ desk with state := { desk.state with clients } }, received)

/-- Runs a gateway computation: the new desk and the value or the message of a broken
invariant. -/
def perform {α : Type} (desk : GatewayDesk) (action : GatewayM GatewayRole GatewayState α) : GatewayDesk × Except String α :=
  match EStateM.run action ⟨desk.book, desk.state, [], #[]⟩ with
  | .ok value run => (⟨run.book, run.audience⟩, .ok value)
  | .error message run => (⟨run.book, run.audience⟩, .error message)

/-- The state of the book. -/
def bookSummary (desk : GatewayDesk) : BookSummary :=
  ⟨desk.book.bestBid, desk.book.bestOffer, desk.book.bids.size, desk.book.offers.size,
    desk.book.bids.volume, desk.book.offers.volume, desk.book.tape.size⟩

/-- The state of the portfolios. -/
def portfolioSummaries (desk : GatewayDesk) : List (String × PortfolioSummary) :=
  desk.state.clients.map fun c =>
    (c.id, ⟨c.portfolio.bids.length, c.portfolio.offers.length, c.portfolio.netPosition,
      c.portfolio.fills.size⟩)

/-- The clients known, in order of their ids. -/
def clientIds (desk : GatewayDesk) : List String := desk.state.clientIds

/-- Runs a step with the sessions of `watching` open around it, before reporting. -/
def apply (desk : GatewayDesk) (watching : List String) (step : GatewayStep) :
    GatewayDesk × GatewayResult × List (String × List Outbound) :=
  match step with
  | .send client raw again =>
    let desk := desk.connectAll (watching ++ (if watching.contains client then [] else [client]))
    let (desk, outcome) := desk.perform (GatewayM.handle client raw)
    let (desk, out) := desk.closeAll
    let result := match outcome with
      | .error message => .broken message
      | .ok () => if again then .lateSubmit .closed else .done
    (desk, result, out)
  | .setClock moment =>
    ({ desk with state := desk.state.atTime moment }, .done, [])
  | .connectTwice client =>
    let (desk, first) := desk.connect client
    let (desk, second) := desk.connect client
    let (desk, out) := desk.closeAll
    (desk, .connects first second, out)
  | .bookAdd event =>
    let desk := desk.connectAll watching
    let (desk, outcome) := desk.perform (GatewayM.addToBook event)
    let (desk, out) := desk.closeAll
    let result := match outcome with
      | .error message => .broken message
      | .ok (.ok ()) => .added none
      | .ok (.error e) => .added (some e)
    (desk, result, out)
  | .bookDelete event =>
    let desk := desk.connectAll watching
    let (desk, outcome) := desk.perform (GatewayM.deleteFromBook event)
    let (desk, out) := desk.closeAll
    let result := match outcome with
      | .error message => .broken message
      | .ok found => .deleted found
    (desk, result, out)

/-- Runs a step and reports it. -/
def step (desk : GatewayDesk) (watching : List String) (next : GatewayStep) :
    GatewayDesk × GatewayReport :=
  let before := desk.state
  let (after, result, out) := desk.apply watching next
  (after, { result, out,
            marketData := after.state.marketData.toList.drop before.marketData.size,
            metrics := after.state.counts.toList.drop before.counts.size,
            book := after.bookSummary, portfolios := after.portfolioSummaries })

/-- Runs steps in order and reports each. -/
def run (desk : GatewayDesk) (watching : List String) : List GatewayStep → GatewayDesk × List GatewayReport
  | [] => (desk, [])
  | next :: rest =>
    let (desk, report) := desk.step watching next
    let (desk, reports) := desk.run watching rest
    (desk, report :: reports)

end GatewayDesk

end Bourse
