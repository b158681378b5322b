import Bourse.Exchange.Routes

/-!
# Visiting an exchange

A visit loads the settings file, builds the exchange, removes some paths, starts the exchange,
and then takes steps against it as a client would: requests to the endpoints, connections to
order sessions and to the market-data stream under names of the visitor's choosing, messages
sent on them and read from them, writes to the settings file, and a stop. At the end every
connection closes and the exchange stops, unless a step stopped it already.

Reading asks a connection for a number of messages. An order session holds what the gateway
sent the client and not yet read; the market-data stream holds every event published since the
connection subscribed. A message that is not there is a failed read, and a connection that
failed a read, or that the exchange shut, reads nothing more. Messages sent on the market-data
stream are passed over.

The visit ends at the first stage that fails: loading (prefixed `load config failed: ` when
the file is watched), building, or starting, after which the exchange is stopped.
-/

namespace Bourse

/-- What a connection to the exchange carries. -/
inductive Channel where
  /-- An order session of a client. -/
  | orders (client : String)
  /-- The market-data stream, with the number of published events it has passed on. -/
  | marketData (next : Nat)
  deriving Repr, DecidableEq

/-- A connection of the visitor. -/
structure Connection where
  /-- The visitor's name for it. -/
  name : String
  /-- What it carries. -/
  channel : Channel
  /-- Whether a read failed: it reads nothing more. -/
  broken : Bool
  deriving Repr

/-- A step of a visit. -/
inductive VisitStep where
  /-- A plain request with a method and a target. -/
  | request (method target : String)
  /-- Opens an order session under a name, for the client named in the query of the endpoint's
  address as written (the configured one when empty): escapes in it are undone. -/
  | connect (client name : String)
  /-- Opens the market-data stream under a name. -/
  | followMarket (name : String)
  /-- Sends a message on a connection, then reads a number of messages from connections. -/
  | send (name text : String) (reads : List (String × Nat))
  /-- Reads a number of messages from connections. -/
  | read (reads : List (String × Nat))
  /-- Closes a connection. -/
  | close (name : String)
  /-- Waits for the replay to end. -/
  | awaitReplay
  /-- Waits for the replay to stop running. -/
  | awaitIdle
  /-- Writes the settings file anew. -/
  | rewriteSettings (text : String)
  /-- Asks for the exchange's health. -/
  | checkHealth
  /-- Takes a snapshot of the book. -/
  | snapshot
  /-- Stops the exchange, twice. -/
  | stop
  deriving Repr

/-- What a step of a visit saw. -/
inductive VisitResult where
  /-- The response to a request. -/
  | response (response : Response)
  /-- A session opened. -/
  | connected
  /-- A session was refused, with the response. -/
  | refused (response : Response)
  /-- The messages read, by connection: `none` for a failed read. -/
  | received (messages : List (String × List (Option Json.Value)))
  /-- A connection closed. -/
  | closed
  /-- The replay ended. -/
  | replayEnded
  /-- The replay does not run. -/
  | idle
  /-- The replay's delay in milliseconds after the write, when a replay is configured. -/
  | delay (millis : Option Int)
  /-- The exchange's health problem, if any. -/
  | health (problem : Option String)
  /-- A snapshot of the book. -/
  | snapshot (snapshot : Snapshot)
  /-- The exchange stopped. -/
  | stopped

/-- A visit under way. -/
structure Visit where
  exchange : Exchange
  /-- The settings file. -/
  settingsPath : String
  /-- The open connections. -/
  connections : List Connection
  /-- Whether a step stopped the exchange. -/
  stopped : Bool

/-- How a visit went. -/
inductive VisitOutcome where
  /-- The settings did not load; the message is prefixed when the file is watched. -/
  | loadFailed (error : SettingsError) (prefixed : Bool)
  /-- The exchange could not be built. -/
  | buildFailed (message : String)
  /-- The metrics registry refused a metric while the exchange was built, which ends the
  program at once. -/
  | brokeDown (message : String)
  /-- The exchange did not start, and was stopped. -/
  | startFailed (message : String) (exchange : Exchange)
  /-- The steps were taken: what each saw, the exchange at the end, and whether a step stopped
  it. -/
  | visited (results : List VisitResult) (exchange : Exchange) (stopStep : Bool)

namespace Visit

/-- Opens a connection under a name, in place of one of the same name. -/
def attach (visit : Visit) (name : String) (channel : Channel) : Visit :=
  { visit with connections := visit.connections.filter (·.name != name) ++ [⟨name, channel, false⟩] }

/-- The connection of a name. -/
def connection? (visit : Visit) (name : String) : Option Connection :=
  visit.connections.find? (·.name == name)

/-- Replaces the connection of a name. -/
def putConnection (visit : Visit) (conn : Connection) : Visit :=
  { visit with connections := visit.connections.map fun c => if c.name == conn.name then conn else c }

/-- The messages waiting on a channel, oldest first. -/
def waiting (visit : Visit) : Channel → List Json.Value
  | .orders client =>
    ((visit.exchange.gateway.client? client).map fun c => c.outbox.toList.map Outbound.toJson).getD []
  | .marketData next =>
    (visit.exchange.floor.published.toList.drop next).map fun e => (MarketDataEntry.ofEvent e).toJson

/-- The visit after `count` messages were read from a connection. -/
def consume (visit : Visit) (conn : Connection) (count : Nat) : Visit :=
  match conn.channel with
  | .orders client =>
    { visit with exchange := visit.exchange.modifyGateway fun g =>
        g.updateClient client fun c => { c with outbox := c.outbox.extract count c.outbox.size } }
  | .marketData next => visit.putConnection { conn with channel := .marketData (next + count) }

/-- Reads a number of messages from the connection of a name. -/
def readFrom (visit : Visit) (name : String) (count : Nat) : Visit × List (Option Json.Value) :=
  match visit.connection? name with
  | none => (visit, List.replicate count none)
  | some conn =>
    if conn.broken || visit.exchange.socketsShut then (visit, List.replicate count none)
    else
      let available := (visit.waiting conn.channel).take count
      let visit := visit.consume conn available.length
      let visit := if available.length < count then
          visit.putConnection { ((visit.connection? name).getD conn) with broken := true }
        else visit
      (visit, available.map some ++ List.replicate (count - available.length) none)

/-- Reads from connections in turn. -/
def readAll (visit : Visit) : List (String × Nat) → Visit × List (String × List (Option Json.Value))
  | [] => (visit, [])
  | (name, count) :: rest =>
    let (visit, messages) := visit.readFrom name count
    let (visit, others) := visit.readAll rest
    (visit, (name, messages) :: others)

/-- Sends a message on the connection of a name. -/
def sendOn (visit : Visit) (name text : String) : Visit :=
  match visit.connection? name with
  | some ⟨_, .orders client, _⟩ =>
    if visit.exchange.socketsShut then visit
    else { visit with exchange := visit.exchange.submit client text }
  | _ => visit

/-- Closes the connection of a name. -/
def closeConnection (visit : Visit) (name : String) : Visit :=
  let visit := match visit.connection? name with
    | some ⟨_, .orders client, _⟩ => { visit with exchange := visit.exchange.disconnect client }
    | _ => visit
  { visit with connections := visit.connections.filter (·.name != name) }

/-- Takes one step. -/
def step (visit : Visit) : VisitStep → Visit × VisitResult
  | .request method target =>
    match visit.exchange.serve ⟨method, target, false⟩ with
    | (ex, .respond response) => ({ visit with exchange := ex }, .response response)
    | (ex, _) => ({ visit with exchange := ex }, .response Response.methodNotAllowed)
  | .connect client name =>
    let query := if client.isEmpty then ""
      else String.ofList (("SenderCompID=" ++ client).toList.takeWhile (· != '#'))
    match visit.exchange.answer .fix query true with
    | (ex, .orders id) => ({ visit with exchange := ex }.attach name (.orders id), .connected)
    | (ex, .respond response) => ({ visit with exchange := ex }, .refused response)
    | (ex, .marketData) => ({ visit with exchange := ex }, .connected)
  | .followMarket name =>
    match visit.exchange.answer .marketData "" true with
    | (ex, .marketData) =>
      let next := ex.floor.published.size
      ({ visit with exchange := ex }.attach name (.marketData next), .connected)
    | (ex, .respond response) => ({ visit with exchange := ex }, .refused response)
    | (ex, .orders _) => ({ visit with exchange := ex }, .connected)
  | .send name text reads =>
    let (visit, messages) := (visit.sendOn name text).readAll reads
    (visit, .received messages)
  | .read reads =>
    let (visit, messages) := visit.readAll reads
    (visit, .received messages)
  | .close name => (visit.closeConnection name, .closed)
  | .awaitReplay => (visit, .replayEnded)
  | .awaitIdle => (visit, .idle)
  | .rewriteSettings text =>
    let ex := visit.exchange
    let ex := { ex with disk := ex.disk.write visit.settingsPath text }.noticeWrite visit.settingsPath
    ({ visit with exchange := ex }, .delay (ex.simulator.map (·.delay.toMillis)))
  | .checkHealth => (visit, .health visit.exchange.health)
  | .snapshot => (visit, .snapshot (visit.exchange.book.snapshot visit.exchange.now))
  | .stop => ({ visit with exchange := visit.exchange.stop.stop, stopped := true }, .stopped)

/-- Takes steps in order. -/
def steps (visit : Visit) : List VisitStep → Visit × List VisitResult
  | [] => (visit, [])
  | next :: rest =>
    let (visit, result) := visit.step next
    let (visit, results) := visit.steps rest
    (visit, result :: results)

/-- Ends a visit: every connection closes, and the exchange stops unless a step stopped it. -/
def finish (visit : Visit) : Visit :=
  let visit := visit.connections.foldl (fun v c => v.closeConnection c.name) visit
  if visit.stopped then visit else { visit with exchange := visit.exchange.stop }

end Visit

namespace Exchange

/-- Visits an exchange: loads the settings file (watching it when asked), builds the exchange,
removes the paths given, starts it and takes the steps. -/
def visit (settingsPath : String) (watch : Bool) (disk : Disk) (removed : List String)
    (wall : Instant) (steps : List VisitStep) : VisitOutcome :=
  match Settings.load settingsPath (disk.read? settingsPath) [] with
  | .error e => .loadFailed e watch
  | .ok settings =>
    match build settings (if watch then some settingsPath else none) disk wall with
    | .error (.failed e _) => .buildFailed e
    | .error (.brokeDown e _) => .brokeDown e
    | .ok ex =>
      let ex := { ex with disk := removed.foldl Disk.remove ex.disk }
      match ex.start with
      | (ex, some e) => .startFailed e ex.stop
      | (ex, none) =>
        let (visit, results) := Visit.steps ⟨ex, settingsPath, [], false⟩ steps
        let visit := visit.finish
        .visited results visit.exchange visit.stopped

end Exchange

end Bourse
