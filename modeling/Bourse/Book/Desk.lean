import Bourse.Book.Run
import Bourse.Book.Script
import Bourse.Book.Bars
import Bourse.Portfolio.TradeLog

/-!
# A desk on an order book

A desk is an order book with the observers a trading desk keeps on it, subscribed in this
order: a recorder of every published event, scripted subscribers, a bar aggregator of the
buy-side trades, and one portfolio per client, each with a trade log and a record of what the
client learned. The desk works through steps: orders and deletes sent to the book, questions
about the book, and actions of a client through their portfolio (add, cancel, replace). Each
step reports its result together with what the book published and noted meanwhile.

A portfolio's cancel deletes the open order it holds; its replace deletes the original order
and adds the new one with the original's executed quantity and average price carried over, so
that only what was not yet executed is open.
-/

namespace Bourse

/-- What each subscriber of a desk's book is. -/
inductive DeskRole where
  /-- Records every published event. -/
  | recorder
  /-- The scripted subscriber at a position in the desk's list. -/
  | script (index : Nat)
  /-- Builds bars from buy-side trades. -/
  | bars
  /-- Follows a client. -/
  | portfolio (client : String)
  deriving Repr, DecidableEq

/-- One client at the desk: the portfolio, its trade log, and the number of the subscription
through which the portfolio follows the book. -/
structure ClientDesk where
  client : String
  portfolio : Portfolio
  tradeLog : TradeLog
  subscription : Nat
  deriving Repr

/-- The observers of a desk: every event published, the scripted subscribers and what they did,
the bars when the desk keeps them, the desk's clock, the clients, what each client learned and
what the portfolios logged. Every record is kept oldest first. -/
structure DeskAudience where
  published : Array MarketEvent
  scripts : List Script
  records : Array ScriptRecord
  bars : Option BarAggregator
  clock : Instant
  clients : List ClientDesk
  clientEvents : Array (String × ClientEvent)
  logs : Array LogRecord
  deriving Repr

namespace DeskAudience

/-- The desk of a client, if the client has one. -/
def client? (audience : DeskAudience) (client : String) : Option ClientDesk :=
  audience.clients.find? (·.client == client)

/-- The audience with the desk of a client changed. -/
def updateClient (audience : DeskAudience) (client : String) (change : ClientDesk → ClientDesk) :
    DeskAudience :=
  { audience with clients := audience.clients.map fun c => if c.client == client then change c else c }

/-- Shows an event to a client's portfolio, and what the client learns to their trade log. -/
def observe (audience : DeskAudience) (client : String) (event : MarketEvent) : DeskAudience :=
  match audience.client? client with
  | none => audience
  | some desk =>
    let (portfolio, learned, logs) := desk.portfolio.observe event
    let desk := { desk with portfolio }
    let (desk, events) := match learned with
      | some ce => ({ desk with tradeLog := desk.tradeLog.onClientEvent ce },
          audience.clientEvents.push (client, ce))
      | none => (desk, audience.clientEvents)
    let updated := audience.updateClient client fun _ => desk
    { updated with clientEvents := events, logs := audience.logs ++ logs.toArray }

end DeskAudience

/-- How the desk's observers handle the book's events. -/
def deskDelivery : Delivery DeskRole DeskAudience := fun audience book subscription event =>
  match subscription.role with
  | .recorder => ({ audience with published := audience.published.push event }, Reaction.none)
  | .script index =>
    match audience.scripts[index]? with
    | none => (audience, Reaction.none)
    | some script =>
      let (script, record, reaction) := script.react book event
      let records := match record with
        | some r => audience.records.push r
        | none => audience.records
      ({ audience with scripts := audience.scripts.set index script, records }, reaction)
  | .bars =>
    match audience.bars, Trade.ofEvent? event with
    | some bars, some trade =>
      if trade.header.side.isBuy then
        let (bars, _) := bars.onTrade trade.execution.execPrice trade.execution.execQty audience.clock
        ({ audience with bars := some bars }, Reaction.none)
      else (audience, Reaction.none)
    | _, _ => (audience, Reaction.none)
  | .portfolio client => (audience.observe client event, Reaction.none)

/-- A desk: the book and its observers. -/
structure Desk where
  book : OrderBook DeskRole
  /-- The observers. -/
  audience : DeskAudience
  deriving Repr

/-- Something to do at the desk. -/
inductive DeskStep where
  /-- Offer an event to the book. -/
  | add (event : MarketEvent)
  /-- Delete the order an event names. -/
  | delete (event : MarketEvent)
  /-- Look up a resting order. -/
  | lookup (side : Side) (key : OrderKey)
  /-- Take a snapshot of the book. -/
  | snapshot
  /-- Read the best prices. -/
  | best
  /-- Read the tape from a position. -/
  | trades (start : Int)
  /-- Set the desk's clock. -/
  | setClock (moment : Instant)
  /-- Remove a subscriber by name. -/
  | unsubscribe (name : String)
  /-- A client offers an event through their portfolio. -/
  | clientAdd (client : String) (event : MarketEvent)
  /-- A client cancels an open order of one side. -/
  | clientCancel (client : String) (side : Side) (orderId : String)
  /-- A client replaces an open order by a new one. -/
  | clientReplace (client : String) (original : String) (next : MarketEvent)
  /-- Look up a client's open order. -/
  | clientOpen (client : String) (side : Side) (orderId : String)
  /-- Read a client's portfolio. -/
  | clientState (client : String)
  /-- A client's portfolio stops following the book. -/
  | clientClose (client : String)
  /-- A client's trade log records a replay announcement. -/
  | clientLifecycle (client : String) (type : LifecycleType) (moment : Instant)
  /-- A client joins the desk now, if they have not yet. -/
  | clientJoin (client : String)
  deriving Repr

/-- Why a replace failed. -/
inductive ReplaceError where
  /-- The portfolio holds no such open order, or the book no longer did. -/
  | unknownOrder
  /-- The book refused the new order. -/
  | refused (error : BookError)
  deriving Repr

/-- A summary of a client's portfolio. -/
structure ClientState where
  client : String
  openBids : Nat
  openOffers : Nat
  /-- Bought less sold. -/
  net : Int64
  /-- The client's trades. -/
  fills : List Trade
  /-- Records in the client's trade log. -/
  logRecords : Nat
  deriving Repr

/-- The result of a step. -/
inductive DeskResult where
  /-- Done. -/
  | ok
  /-- The book refused the event. -/
  | refused (error : BookError)
  /-- The book stopped on a broken invariant. -/
  | broken (message : String)
  /-- The resting or open order looked up. -/
  | found (order : Option MarketEvent)
  /-- Whether the deleted order was resting. -/
  | deleted (found : Bool)
  /-- A snapshot, with the bars when the desk keeps them. -/
  | snapshot (snapshot : Snapshot) (bars : Option (List Bar))
  /-- The best prices and the symbol. -/
  | best (bid offer : Decimal) (symbol : String)
  /-- Trades of the tape. -/
  | trades (trades : List Trade)
  /-- Whether a cancel reached the book with an order it held. -/
  | cancelled (done : Bool)
  /-- A replace: the original order, the new one as sent, and the failure. -/
  | replaced (original : Option MarketEvent) (next : MarketEvent) (error : Option ReplaceError)
  /-- A portfolio summary. -/
  | state (state : ClientState)
  deriving Repr

/-- What a step did. -/
structure DeskReport where
  result : DeskResult
  /-- The events published, in order. -/
  published : List MarketEvent
  /-- The book's notes, in order. -/
  notes : List BookNote
  /-- What scripted subscribers did. -/
  records : List ScriptRecord
  /-- What clients learned. -/
  clientEvents : List (String × ClientEvent)
  /-- The lines each client's trade log wrote, for the clients that wrote. -/
  tradeLines : List (String × List String)
  deriving Repr

/-- The summary of a client's portfolio. -/
def ClientDesk.state (desk : ClientDesk) : ClientState :=
  { client := desk.client, openBids := desk.portfolio.bids.length,
    openOffers := desk.portfolio.offers.length, net := desk.portfolio.netPosition,
    fills := desk.portfolio.fills.toList, logRecords := desk.tradeLog.records }

namespace Desk

/-- A desk with a book for a symbol, its clock at `clock`, the scripted subscribers, bars when
`bars` gives an interval and a count, and the clients' portfolios writing trade logs in
`layout`. -/
def new (symbol : String) (clock : Instant) (scripts : List Script)
    (bars : Option (Duration × Int)) (clients : List String) (layout : String) : Desk :=
  let book : OrderBook DeskRole := OrderBook.empty symbol .priceTime
  let (book, _) := book.subscribe "recorder" .recorder
  let (book, _) := scripts.zipIdx.foldl (fun (b, n) (script, index) =>
    let (b, _) := b.subscribe script.name (.script index)
    (b, n)) (book, 0)
  let (book, _) := match bars with
    | some _ => book.subscribe "bars" .bars
    | none => (book, 0)
  let (book, desks) := clients.foldl (fun (b, desks) client =>
    let (b, id) := b.subscribe ("portfolio:" ++ client) (.portfolio client)
    (b, desks ++ [⟨client, Portfolio.new client, TradeLog.new .accepting layout, id⟩])) (book, [])
  ⟨book, { published := #[], scripts, records := #[],
           bars := bars.map fun (interval, keep) => BarAggregator.new interval keep,
           clock, clients := desks, clientEvents := #[], logs := #[] }⟩

/-- A book computation on the desk: the new desk, the book's notes, and the value or the
message of a broken invariant. -/
def perform {α : Type} (desk : Desk) (action : BookM DeskRole DeskAudience α) :
    Desk × Array BookNote × Except String α :=
  match EStateM.run action ⟨desk.book, desk.audience, [], #[]⟩ with
  | .ok value run => (⟨run.book, run.audience⟩, run.notes, .ok value)
  | .error message run => (⟨run.book, run.audience⟩, run.notes, .error message)

/-- Runs a book computation and turns its value into a result. -/
def performWith {α : Type} (desk : Desk) (action : BookM DeskRole DeskAudience α)
    (result : α → DeskResult) : Desk × Array BookNote × DeskResult :=
  let (desk, notes, outcome) := desk.perform action
  match outcome with
  | .ok value => (desk, notes, result value)
  | .error message => (desk, notes, .broken message)

/-- The result of an add. -/
def addResult : Except BookError Unit → DeskResult
  | .ok () => .ok
  | .error e => .refused e

/-- A client's replace, as the book sees it: delete the original and add the new order
carrying the original's execution. Gives the original (when it was open), the new order as
sent, and the failure. -/
def replaceOrder (client : ClientDesk) (now : Instant) (original : String) (next : MarketEvent) :
    BookM DeskRole DeskAudience (Option MarketEvent × MarketEvent × Option ReplaceError) := do
  let h := next.header
  match client.portfolio.open? h.side original with
  | none => return (none, next, some .unknownOrder)
  | some orig =>
    if !(← BookM.delete deskDelivery queueLimit now orig) then
      return (none, next, some .unknownOrder)
    let oh := orig.header
    let next := next.mapHeader fun h =>
      { h with cumQty := oh.cumQty, avgPrice := oh.avgPrice, remainingQty := h.orderQty - oh.cumQty }
    let next := client.portfolio.stamp next
    match ← BookM.add deskDelivery queueLimit now next with
    | .ok () => return (some orig, next, none)
    | .error e => return (some orig, next, some (.refused e))

/-- Runs a step on the book or the observers, without the report. -/
def apply (desk : Desk) (step : DeskStep) : Desk × Array BookNote × DeskResult :=
  let now := desk.audience.clock
  match step with
  | .add event => desk.performWith (BookM.add deskDelivery queueLimit now event) addResult
  | .delete event =>
    desk.performWith (BookM.delete deskDelivery queueLimit now event) DeskResult.deleted
  | .lookup side key => (desk, #[], .found (desk.book.lookup side key))
  | .snapshot =>
    (desk, #[], .snapshot (desk.book.snapshot now) (desk.audience.bars.map BarAggregator.bars))
  | .best => (desk, #[], .best desk.book.bestBid desk.book.bestOffer desk.book.symbol)
  | .trades start => (desk, #[], .trades (desk.book.trades start))
  | .setClock moment => ({ desk with audience := { desk.audience with clock := moment } }, #[], .ok)
  | .unsubscribe name =>
    match desk.book.subscriptions.find? (·.name == name) with
    | some sub => ({ desk with book := desk.book.unsubscribe sub.id }, #[], .ok)
    | none => (desk, #[], .ok)
  | .clientAdd client event =>
    match desk.audience.client? client with
    | none => (desk, #[], .ok)
    | some c =>
      desk.performWith (BookM.add deskDelivery queueLimit now (c.portfolio.stamp event)) addResult
  | .clientCancel client side orderId =>
    match desk.audience.client? client with
    | none => (desk, #[], .cancelled false)
    | some c =>
      match c.portfolio.open? side orderId with
      | none => (desk, #[], .cancelled false)
      | some order =>
        desk.performWith (BookM.delete deskDelivery queueLimit now order) DeskResult.cancelled
  | .clientReplace client original next =>
    match desk.audience.client? client with
    | none => (desk, #[], .replaced none next (some .unknownOrder))
    | some c => desk.performWith (replaceOrder c now original next)
        fun (orig, next, error) => .replaced orig next error
  | .clientOpen client side orderId =>
    (desk, #[], .found ((desk.audience.client? client).bind (·.portfolio.open? side orderId)))
  | .clientState client =>
    match desk.audience.client? client with
    | some c => (desk, #[], .state c.state)
    | none => (desk, #[], .ok)
  | .clientClose client =>
    match desk.audience.client? client with
    | some c => ({ desk with book := desk.book.unsubscribe c.subscription }, #[], .ok)
    | none => (desk, #[], .ok)
  | .clientLifecycle client type moment =>
    let audience := desk.audience.updateClient client fun c =>
      { c with tradeLog := c.tradeLog.onLifecycle ⟨type, moment, 0, none⟩ now }
    ({ desk with audience }, #[], .ok)
  | .clientJoin client =>
    match desk.audience.client? client with
    | some _ => (desk, #[], .ok)
    | none =>
      let layout := (desk.audience.clients.head?.map (·.tradeLog.layout)).getD ""
      let (book, id) := desk.book.subscribe ("portfolio:" ++ client) (.portfolio client)
      let joined : ClientDesk := ⟨client, Portfolio.new client, TradeLog.new .accepting layout, id⟩
      ({ book, audience := { desk.audience with clients := desk.audience.clients ++ [joined] } },
        #[], .ok)

/-- The lines a trade log wrote after it had written `before` characters of text. -/
def newLines (log : TradeLog) (before : Nat) : List String :=
  let added := String.ofList (log.text.toList.drop before)
  if added.isEmpty then [] else (added.splitOn "\n").dropLast

/-- Runs a step and reports it. -/
def step (desk : Desk) (next : DeskStep) : Desk × DeskReport :=
  let before := desk.audience
  let (after, notes, result) := desk.apply next
  let now := after.audience
  let lines := now.clients.filterMap fun c =>
    let written := ((before.client? c.client).map (·.tradeLog.text.length)).getD 0
    match newLines c.tradeLog written with
    | [] => none
    | lines => some (c.client, lines)
  (after, { result, published := (now.published.toList.drop before.published.size),
            notes := notes.toList, records := now.records.toList.drop before.records.size,
            clientEvents := now.clientEvents.toList.drop before.clientEvents.size,
            tradeLines := lines })

/-- Runs steps in order and reports each. -/
def run (desk : Desk) : List DeskStep → Desk × List DeskReport
  | [] => (desk, [])
  | next :: rest =>
    let (desk, report) := desk.step next
    let (desk, reports) := desk.run rest
    (desk, report :: reports)

end Desk

end Bourse
