import Bourse.Json.Record
import Bourse.Text.Integer
import Bourse.Text.Lines

/-!
# Fills per client from a trade log

After a session, the exchange's JSON log is read line by line to sum up each client's fills.
A line counts as a fill when, from its first `{` on, it is a JSON object with message
`trade_event` and event `FILL` or `PARTIAL_FILL`; every other line is passed over. A filter may
keep only one symbol, and only fills stamped no earlier than a moment (a fill whose time does
not read is kept).

A fill needs a positive whole quantity, a client and a decimal price; a fill without them is
counted as skipped. Side `BUY` adds to what the client bought, any other side to what it sold.
Quantities are 64-bit and wrap; notionals are exact decimals.
-/

namespace Bourse

/-- A fill as a log line reports it, each part as written. -/
structure FillLine where
  /-- The log message. -/
  message : String
  /-- The event's kind. -/
  event : String
  /-- When it happened. -/
  time : String
  /-- The instrument. -/
  symbol : String
  /-- The client that traded. -/
  client : String
  /-- `BUY` or a sell side. -/
  side : String
  /-- The quantity, as the number was written. -/
  quantity : String
  price : String
  deriving Repr, Inhabited

namespace FillLine

/-- A field that keeps a number's spelling: a number as written, or a string that spells a
number. -/
def numberField (name : String) (store : FillLine → String → FillLine) : Json.FieldSpec FillLine :=
  ⟨name, "json.Number", fun _ node =>
    match node with
    | .number literal _ => .set (store · literal)
    | .string text _ =>
      match Json.readNumber text.toList with
      | .ok (_, []) => .set (store · text)
      | _ => .fail ("json: invalid number literal, trying to unmarshal " ++ quoteText text ++
          " into Number")
    | .null _ => .set id
    | other => .mismatch other.kindName⟩

/-- The members a fill line is read from. -/
def fields : List (Json.FieldSpec FillLine) :=
  [Json.textField "msg" "string" fun l v => { l with message := v },
    Json.textField "event" "string" fun l v => { l with event := v },
    Json.textField "ts" "string" fun l v => { l with time := v },
    Json.textField "symbol" "string" fun l v => { l with symbol := v },
    Json.textField "client_id" "string" fun l v => { l with client := v },
    Json.textField "side" "string" fun l v => { l with side := v },
    numberField "exec_qty" fun l v => { l with quantity := v },
    Json.textField "exec_price" "string" fun l v => { l with price := v }]

/-- Reads a log line from its first `{` on; `none` when it has none or is not a fill line's
JSON. -/
def read? (line : String) : Option FillLine :=
  let json := line.toList.dropWhile (· != '{')
  if json.isEmpty then none
  else (Json.unmarshal "tradeLine" "posttrade.tradeLine" fields (String.ofList json) default).toOption

/-- Whether the line reports a fill. -/
def isFill (line : FillLine) : Bool :=
  line.message == "trade_event" && (line.event == "FILL" || line.event == "PARTIAL_FILL")

end FillLine

/-- Which fills are summed: one symbol, or all when empty; fills from a moment on, or all when
it is zero. -/
structure FillFilter where
  /-- The symbol kept. -/
  symbol : String
  /-- The earliest moment kept. -/
  since : Instant
  deriving Repr, Inhabited

/-- Whether a filter keeps a fill. -/
def FillFilter.keeps (filter : FillFilter) (line : FillLine) : Bool :=
  (filter.symbol.isEmpty || line.symbol == filter.symbol) &&
    (filter.since.isZero ||
      match Instant.parseRfc3339 line.time with
      | .ok time => filter.since.nanos ≤ time.nanos
      | .error _ => true)

/-- One client's fills. -/
structure ClientFills where
  client : String
  /-- How many fills. -/
  trades : Nat
  /-- The quantity bought. -/
  bought : Int64
  /-- The quantity sold. -/
  sold : Int64
  /-- What the buys cost. -/
  buyNotional : Decimal
  /-- What the sells brought in. -/
  sellNotional : Decimal
  deriving Repr, Inhabited

namespace ClientFills

/-- A client with no fills. -/
def new (client : String) : ClientFills := ⟨client, 0, 0, 0, Decimal.zero, Decimal.zero⟩

/-- The net position: bought less sold. -/
def net (fills : ClientFills) : Int64 := fills.bought - fills.sold

/-- The cash that came in: sells less buys. -/
def cashFlow (fills : ClientFills) : Decimal := fills.sellNotional - fills.buyNotional

/-- The places a volume-weighted average price keeps. -/
def averagePlaces : Nat := 8

/-- The average price of a notional over a quantity, zero for no quantity. -/
def average (notional : Decimal) (quantity : Int64) : Decimal :=
  if quantity == 0 then Decimal.zero
  else notional.divRound (Decimal.ofInt64 quantity) averagePlaces

/-- The volume-weighted average buying price. -/
def buyAverage (fills : ClientFills) : Decimal := average fills.buyNotional fills.bought

/-- The volume-weighted average selling price. -/
def sellAverage (fills : ClientFills) : Decimal := average fills.sellNotional fills.sold

/-- Adds a fill of `quantity` at `price` on a side. -/
def record (fills : ClientFills) (buying : Bool) (quantity : Int64) (price : Decimal) :
    ClientFills :=
  let notional := price * Decimal.ofInt64 quantity
  let fills := { fills with trades := fills.trades + 1 }
  if buying then
    { fills with bought := fills.bought + quantity, buyNotional := fills.buyNotional + notional }
  else
    { fills with sold := fills.sold + quantity, sellNotional := fills.sellNotional + notional }

end ClientFills

/-- What reading a log gave: each client's fills in the order clients first traded, the lines
read and the fills skipped. -/
structure FillReport where
  /-- The clients' fills. -/
  clients : List ClientFills
  /-- The lines read. -/
  lines : Nat
  /-- The fills skipped for missing parts. -/
  skipped : Nat
  deriving Repr, Inhabited

namespace FillReport

/-- The report of an empty log. -/
def empty : FillReport := ⟨[], 0, 0⟩

/-- Adds a fill to a client's sums, making the client known if it is new. -/
def credit (report : FillReport) (client : String) (change : ClientFills → ClientFills) :
    FillReport :=
  if report.clients.any (·.client == client) then
    { report with clients := report.clients.map fun c => if c.client == client then change c else c }
  else { report with clients := report.clients ++ [change (ClientFills.new client)] }

/-- Takes in one line of the log. -/
def takeLine (filter : FillFilter) (report : FillReport) (text : String) : FillReport :=
  let report := { report with lines := report.lines + 1 }
  match FillLine.read? text with
  | none => report
  | some line =>
    if !line.isFill || !filter.keeps line then report
    else
      let skip := { report with skipped := report.skipped + 1 }
      match readInt64 line.quantity with
      | .error _ => skip
      | .ok quantity =>
        if quantity ≤ 0 || line.client.isEmpty then skip
        else
          match Decimal.ofText? line.price with
          | .error _ => skip
          | .ok price => report.credit line.client fun c => c.record (line.side == "BUY") quantity price

/-- The clients' fills in the order of their names. -/
def byClient (report : FillReport) : List ClientFills :=
  report.clients.mergeSort fun a b => decide (a.client ≤ b.client)

end FillReport

/-- One client's fills as JSON: counts, notionals and cash flow exactly, average prices to eight
places, and the averages and cash flow also to four places. -/
def ClientFills.toJson (fills : ClientFills) : Json.Value :=
  .object [("client", .string fills.client), ("trades", .ofNat fills.trades),
    ("bought", .ofInt64 fills.bought), ("sold", .ofInt64 fills.sold), ("net", .ofInt64 fills.net),
    ("buy_notional", .string fills.buyNotional.toText),
    ("sell_notional", .string fills.sellNotional.toText),
    ("buy_vwap", .string fills.buyAverage.toText), ("sell_vwap", .string fills.sellAverage.toText),
    ("cash_flow", .string fills.cashFlow.toText),
    ("buy_vwap4", .string (fills.buyAverage.toFixed 4)),
    ("sell_vwap4", .string (fills.sellAverage.toFixed 4)),
    ("cash_flow4", .string (fills.cashFlow.toFixed 4))]

/-- The members of a report as JSON: lines read, fills skipped and the clients by name. -/
def FillReport.toJson (report : FillReport) : List (String × Json.Value) :=
  [("lines", .ofNat report.lines), ("skipped", .ofNat report.skipped),
    ("clients", .array (report.byClient.map ClientFills.toJson))]

/-- Sums up the fills of a log; also gives the error that stopped reading, if a line was too
long. -/
def analyzeFills (log : String) (filter : FillFilter) : FillReport × Option String :=
  let (lines, tooLong) := readLines lineLimit log
  let report := lines.foldl (FillReport.takeLine filter) FillReport.empty
  (report, if tooLong then some ("scan log: " ++ lineTooLong) else none)

end Bourse
