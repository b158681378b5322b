import Bourse.Gateway.Reporter
import Bourse.Gateway.Schema
import Bourse.Book.Run

/-!
# The order gateway

The gateway stands between trading sessions and one order book. A client's portfolio follows
the book from the client's first connection on; a client keeps its portfolio, tracker and
reporter across sessions, and has at most one session at a time.

A message from a session is checked and decoded (a failure is answered with a business reject
and counted as a `malformed` rejection), counted as received by type, and handled by type:

* a **new order** is translated, accepted by the tracker under a fresh exchange order id (a
  client order id already open is a duplicate) and added to the book through the portfolio; if
  the book refuses it, the tracker forgets it;
* a **cancel** is refused for another symbol, for an order already done, or for an order the
  portfolio does not hold; otherwise it deletes the order, and a delete that finds nothing is
  refused as too late;
* a **replace** is translated and refused when the original is not open, when the new quantity
  does not exceed what was executed, or when the new client order id is taken by another open
  order; otherwise the original is deleted and the new order added carrying its executions.

Every rejection is counted and reported; every report is counted by status. Accepted, canceled,
replaced and rejected orders are noted for the order log.

All of it runs in `BookM` over any subscribers that host a gateway (`GatewayHost`): the book
delivers to them, and they keep the gateway's state. A message's effects on the book and on the
clients happen in the order the book delivers them.
-/

namespace Bourse

/-- What the gateway counts. -/
inductive GatewayCount where
  /-- A message received, by message type. -/
  | received (msgType : String)
  /-- A message rejected, by reason. -/
  | rejected (reason : String)
  /-- A report sent, by order status. -/
  | execution (status : String)
  deriving Repr, DecidableEq

/-- A count as text: its kind, a colon and its label. -/
def GatewayCount.text : GatewayCount → String
  | .received msgType => "received:" ++ msgType
  | .rejected reason => "rejected:" ++ reason
  | .execution status => "execution:" ++ status

/-- What became of an order, for the order log: the event's name, the client order id the
record is about and its details. -/
structure OrderNote where
  /-- `accepted`, `canceled`, `replaced` or `rejected`. -/
  event : String
  /-- The client order id. -/
  orderId : String
  /-- The details. -/
  fields : List Field
  deriving Repr

/-- Why a session could not be opened or used. -/
inductive SessionError where
  /-- The client already has a session. -/
  | connected (client : String)
  /-- The session is closed. -/
  | closed
  deriving Repr, DecidableEq

/-- The message of a session error. -/
def SessionError.message : SessionError → String
  | .connected client => "client already has an active session: " ++ client
  | .closed => "session closed"

/-- The gateway's state beside its book. -/
structure GatewayState where
  /-- The clients, in the order they first connected. -/
  clients : List GatewayClient
  /-- The market data recorded, oldest first. -/
  marketData : Array MarketDataEntry
  /-- The counts made, in order. -/
  counts : Array GatewayCount
  /-- The order log's records, in order. -/
  orderNotes : Array OrderNote
  /-- What each client learned, in order. -/
  learned : Array (String × ClientEvent)
  /-- The number of ids handed out. -/
  issued : Nat
  /-- The time the gateway works at. -/
  clock : Instant
  /-- How orders are translated. -/
  translator : Translator
  deriving Repr

namespace GatewayState

/-- A gateway with no clients for a book of `symbol`, at `clock`. -/
def new (symbol : String) (constraints : SymbolConstraints) (clock : Instant) : GatewayState :=
  ⟨[], #[], #[], #[], #[], 0, clock, ⟨symbol, constraints, .fixed clock⟩⟩

/-- The gateway at another time; orders are stamped with it. -/
def atTime (state : GatewayState) (moment : Instant) : GatewayState :=
  { state with clock := moment, translator := { state.translator with stamp := .fixed moment } }

/-- The client with an id, if it has connected before. -/
def client? (state : GatewayState) (id : String) : Option GatewayClient :=
  state.clients.find? (·.id == id)

/-- The state with a client changed. -/
def updateClient (state : GatewayState) (id : String) (change : GatewayClient → GatewayClient) :
    GatewayState :=
  { state with clients := state.clients.map fun c => if c.id == id then change c else c }

/-- Counts something. -/
def count (state : GatewayState) (what : GatewayCount) : GatewayState :=
  { state with counts := state.counts.push what }

/-- Lets a client's reporter report what the client learned, sending the reports to the
client's session. -/
def report (state : GatewayState) (id : String) (learned : ClientEvent) : GatewayState :=
  match state.client? id with
  | none => state
  | some client =>
    let (client, reports, used) := client.report learned ⟨state.clock, state.issued⟩
    let client := reports.foldl (fun c r => c.send (.report r)) client
    let state := { state with issued := state.issued + used }
    let state := reports.foldl (fun s r => s.count (.execution r.statusName)) state
    state.updateClient id fun _ => client

/-- Shows a book event to a client's portfolio; what the client learns is reported to them and
kept. -/
def observe (state : GatewayState) (id : String) (event : MarketEvent) : GatewayState :=
  match state.client? id with
  | none => state
  | some client =>
    let (portfolio, learned, _) := client.portfolio.observe event
    let state := state.updateClient id fun c => { c with portfolio }
    match learned with
    | some ce => { state.report id ce with learned := state.learned.push (id, ce) }
    | none => state

/-- The ids of the clients known, in order. -/
def clientIds (state : GatewayState) : List String :=
  (state.clients.map (·.id)).mergeSort fun a b => decide (a ≤ b)

end GatewayState

/-- Subscribers of a book that host a gateway: how they take the book's events, the role of a
client's portfolio among them, and the gateway's state they keep. -/
class GatewayHost (ρ : outParam Type) (σ : Type) where
  /-- How the subscribers take the book's events. -/
  deliver : Delivery ρ σ
  /-- The role of a client's portfolio. -/
  portfolio : String → ρ
  /-- The gateway's state. -/
  gateway : σ → GatewayState
  /-- The subscribers' state with the gateway's state replaced. -/
  withGateway : σ → GatewayState → σ

/-- The subscribers of a book that serves only the gateway. -/
inductive GatewayRole where
  /-- Records the market data of every event. -/
  | marketData
  /-- The portfolio of a client. -/
  | portfolio (client : String)
  deriving Repr, DecidableEq

/-- How the gateway's own subscribers take events: the recorder records the market data; a
portfolio learns, and its reporter reports. -/
def gatewayDelivery : Delivery GatewayRole GatewayState := fun state _ subscription event =>
  match subscription.role with
  | .marketData =>
    ({ state with marketData := state.marketData.push (MarketDataEntry.ofEvent event) }, Reaction.none)
  | .portfolio id => (state.observe id event, Reaction.none)

instance : GatewayHost GatewayRole GatewayState where
  deliver := gatewayDelivery
  portfolio := .portfolio
  gateway := id
  withGateway := fun _ state => state

/-- Opens a session for a client, making the client, with a portfolio subscribed to the book,
on first connection. -/
def connectClient {ρ σ : Type} [GatewayHost ρ σ] (book : OrderBook ρ) (audience : σ)
    (id : String) : OrderBook ρ × σ × Option SessionError :=
  let state := GatewayHost.gateway audience
  match state.client? id with
  | some client =>
    if client.connected then (book, audience, some (.connected id))
    else (book, GatewayHost.withGateway audience
      (state.updateClient id fun c => { c with connected := true }), none)
  | none =>
    let (book, subscription) := book.subscribe ("portfolio:" ++ id) (@GatewayHost.portfolio ρ σ _ id)
    let client := { GatewayClient.new id subscription with connected := true }
    (book, GatewayHost.withGateway audience { state with clients := state.clients ++ [client] },
      none)

/-- Computations of a gateway: its book at work with the subscribers that host it. -/
abbrev GatewayM (ρ σ : Type) := BookM ρ σ

namespace GatewayM

variable {ρ σ : Type} [GatewayHost ρ σ]

/-- The gateway's state. -/
def state : GatewayM ρ σ GatewayState := do return GatewayHost.gateway (← get).audience

/-- Changes the gateway's state. -/
def modifyState (change : GatewayState → GatewayState) : GatewayM ρ σ Unit :=
  modify fun run =>
    let changed := change (GatewayHost.gateway run.audience)
    { run with audience := GatewayHost.withGateway run.audience changed }

/-- The client with an id; every handled message comes from a known client. -/
def client (id : String) : GatewayM ρ σ GatewayClient := do
  return ((← state).client? id).getD (GatewayClient.new id 0)

/-- Changes a client. -/
def modifyClient (id : String) (change : GatewayClient → GatewayClient) : GatewayM ρ σ Unit :=
  modifyState fun s => s.updateClient id change

/-- Counts something. -/
def count (what : GatewayCount) : GatewayM ρ σ Unit := modifyState fun s => s.count what

/-- Notes what became of an order. -/
def noteOrder (event orderId : String) (fields : List Field) : GatewayM ρ σ Unit :=
  modifyState fun s => { s with orderNotes := s.orderNotes.push ⟨event, orderId, fields⟩ }

/-- Hands out a fresh id number. -/
def issue : GatewayM ρ σ Nat := do
  modifyState fun s => { s with issued := s.issued + 1 }
  return (← state).issued

/-- Sends a message to a client's session. -/
def send (id : String) (message : Outbound) : GatewayM ρ σ Unit :=
  modifyClient id fun c => c.send message

/-- Offers an event to the book at the gateway's time. -/
def addToBook (event : MarketEvent) : GatewayM ρ σ (Except BookError Unit) := do
  BookM.add GatewayHost.deliver queueLimit (← state).clock event

/-- Deletes an order from the book at the gateway's time. -/
def deleteFromBook (event : MarketEvent) : GatewayM ρ σ Bool := do
  BookM.delete GatewayHost.deliver queueLimit (← state).clock event

/-- Rejects an order message. -/
def reject (id : String) (message : OrderMessage) (rejection : Reject) : GatewayM ρ σ Unit := do
  count (.rejected rejection.reason.name)
  count (.execution OrderStatus.rejected.name)
  noteOrder "rejected" message.clOrdId
    [("client_id", .text id), ("msg_type", .text message.msgType),
      ("reason", .text rejection.reason.name), ("text", .text rejection.text)]
  let execId := execIdOf (← issue)
  send id (.report (rejectReport message rejection execId (← state).clock))

/-- Refuses a cancel or replace. -/
def cancelReject (id : String) (message : OrderMessage) (reason : Int) (text : String) :
    GatewayM ρ σ Unit := do
  count (.rejected "cancel_rejected")
  let tracked := (← client id).tracker.get? message.origClOrdId
  send id (.cancelReject (cancelRejectOf message tracked reason text))

/-- Answers a message whose handling broke down with a bare business reject, `internal error`;
nothing else of the message is kept. -/
def brokeDown (id : String) : GatewayM ρ σ Unit :=
  send id (.businessReject (rejectMessage none businessRejectOther "internal error"))

/-- Handles a new order. -/
def onNewOrder (id : String) (message : OrderMessage) : GatewayM ρ σ Unit := do
  match (← state).translator.translate id message with
  | .error _ => brokeDown id
  | .ok (.error rejection) => reject id message rejection
  | .ok (.ok event) =>
    let orderId := orderIdOf (← issue)
    match (← client id).tracker.accept orderId event (← state).clock with
    | .error e => reject id message ⟨.duplicateOrder, e.message⟩
    | .ok (tracker, _) =>
      modifyClient id fun c => { c with tracker }
      match ← addToBook ((← client id).portfolio.stamp event) with
      | .ok () => noteOrder "accepted" message.clOrdId event.fields
      | .error e =>
        modifyClient id fun c => { c with tracker := c.tracker.restore message.clOrdId }
        reject id message e.toReject

/-- Handles a cancel. -/
def onCancel (id : String) (message : OrderMessage) : GatewayM ρ σ Unit := do
  let original := message.origClOrdId
  let side : Side := ⟨firstByte message.side⟩
  let c ← client id
  if message.symbol != (← state).translator.symbol then
    cancelReject id message cancelUnknownOrder ("unknown symbol " ++ quoteText message.symbol)
  else
    let (can, known) := c.tracker.canCancel original
    if known && !can then cancelReject id message cancelTooLate "order already done"
    else match c.portfolio.open? side original with
      | none => cancelReject id message cancelUnknownOrder "unknown order"
      | some order =>
        modifyClient id fun c => c.expectCancel original message.clOrdId
        if !(← deleteFromBook order) then
          modifyClient id fun c => c.forget original
          cancelReject id message cancelTooLate "order no longer open"
        else
          noteOrder "canceled" original
            [("client_id", .text id), ("cl_ord_id", .text message.clOrdId)]

/-- Handles a replace. -/
def onReplace (id : String) (message : OrderMessage) : GatewayM ρ σ Unit := do
  match (← state).translator.translate id message with
  | .error _ => brokeDown id
  | .ok (.error rejection) => reject id message rejection
  | .ok (.ok next) =>
    let h := next.header
    let original := message.origClOrdId
    let c ← client id
    match c.portfolio.open? h.side original with
    | none => reject id message ⟨.unknownOrder, "unknown order " ++ quoteText original⟩
    | some orig =>
      let cum := orig.header.cumQty
      if h.orderQty ≤ cum then
        reject id message ⟨.incorrectQuantity, "orderQty " ++ toString h.orderQty.toInt ++
          " must exceed cumQty " ++ toString cum.toInt⟩
      else if message.clOrdId != original && (c.tracker.get? message.clOrdId).isSome then
        reject id message ⟨.duplicateOrder, "duplicate client order id " ++ quoteText message.clOrdId⟩
      else
        modifyClient id fun c => c.expectReplace original next
        let unknown : Reject := ⟨.unknownOrder, unknownOpenOrder⟩
        match (← client id).portfolio.open? h.side original with
        | none =>
          modifyClient id fun c => c.forget original
          reject id message unknown
        | some current =>
          if !(← deleteFromBook current) then
            modifyClient id fun c => c.forget original
            reject id message unknown
          else
            let oh := current.header
            let carried := next.mapHeader fun nh =>
              { nh with cumQty := oh.cumQty, avgPrice := oh.avgPrice,
                        remainingQty := nh.orderQty - oh.cumQty }
            match ← addToBook ((← client id).portfolio.stamp carried) with
            | .ok () => noteOrder "replaced" original next.fields
            | .error e =>
              modifyClient id fun c => c.forget original
              modifyClient id fun c => { c with tracker := c.tracker.restore message.clOrdId }
              reject id message e.toReject

/-- Handles the bytes a client's session received. A message whose schema check breaks down is
answered as a breakdown (`brokeDown`) and not counted; one whose constraint check breaks down has
been counted as received. -/
def handle (id : String) (raw : String) : GatewayM ρ σ Unit := do
  match decodeOrderMessage raw with
  | .brokeDown _ => brokeDown id
  | .refused rejection =>
    count (.rejected "malformed")
    send id (.businessReject rejection)
  | .accepted message =>
    count (.received message.msgType)
    match message.msgType with
    | "D" => onNewOrder id message
    | "F" => onCancel id message
    | "G" => onReplace id message
    | _ => pure ()

end GatewayM

end Bourse
