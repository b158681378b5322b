import Bourse.Replay.Row
import Bourse.Replay.Interval

/-!
# Archive streams

An archive can also live in a stream of a message store. Each entry of the stream has an id
`<milliseconds>-<sequence>` and text values under the keys `order_id`, `action`, `qty`,
`price`, `side`, `ts` (RFC 3339 time) and `seq`; a missing value, or one that is not text, reads
as empty.

Reading asks the store for pages of entries by id range: first from the start of the interval
in milliseconds, then from just after the last id received (`(` before an id excludes it), up
to the end of the interval, a page size at a time. A page shorter than the page size is the
last. Entries whose time lies outside the interval are passed over.

Writing gives each row an id from its time in milliseconds: a row in a later millisecond than
the last written starts its sequence at zero, any other row takes the last millisecond with the
next sequence number, so ids always grow.

Readers and writers talk to the store through a `StreamClient`: its two commands, adding an
entry (`XADD`) and reading a page of a range (`XRANGE` with a count), over whatever state the
client keeps. Nothing is assumed of the answers: any add may be refused and any page may fail.
`StreamStore` is one such client, scripted: it answers page requests from a list of replies and
refuses the write request with a given number.
-/

namespace Bourse

/-- An entry of a stream. -/
structure StreamEntry where
  /-- The entry's id. -/
  id : String
  /-- The values by key; `none` for a value that is not text. -/
  values : List (String × Option String)
  deriving Repr, Inhabited

/-- The text under a key, empty when there is none. -/
def StreamEntry.text (entry : StreamEntry) (key : String) : String :=
  match entry.values.lookup key with
  | some (some text) => text
  | _ => ""

/-- A request for a page of a stream. -/
structure RangeQuery where
  stream : String
  /-- The first id, or `(` and an id to start after. -/
  start : String
  /-- The last id. -/
  stop : String
  /-- The most entries wanted. -/
  count : Int64
  deriving Repr, Inhabited

/-- The stream commands of a message store client, over the state `σ` it keeps: `xAdd` adds an
entry to a stream and gives the message of the failure when the store refuses it, `xRangeN`
asks for a page of entries. -/
structure StreamClient (σ : Type) where
  xAdd : σ → String → StreamEntry → σ × Option String
  xRangeN : σ → RangeQuery → σ × Except String (List StreamEntry)

/-- A scripted message store: it answers page requests from a list of `replies`, in order,
entries or the message of a failure, and once they run out it answers with no entries; it
refuses the write request numbered `failingWrite`, counted from one. It keeps the page
`queries` and the write `requests` made of it, and the entries `written`, each with its stream,
oldest first. -/
structure StreamStore where
  replies : List (Except String (List StreamEntry))
  queries : Array RangeQuery
  failingWrite : Option Nat
  requests : Array (String × StreamEntry)
  written : Array (String × StreamEntry)
  deriving Repr, Inhabited

namespace StreamStore

/-- A store that gives these replies and fails the write request with this number. -/
def scripted (replies : List (Except String (List StreamEntry))) (failingWrite : Option Nat) :
    StreamStore :=
  ⟨replies, #[], failingWrite, #[], #[]⟩

/-- Answers a page request. -/
def query (store : StreamStore) (request : RangeQuery) :
    StreamStore × Except String (List StreamEntry) :=
  let store := { store with queries := store.queries.push request }
  match store.replies with
  | [] => (store, .ok [])
  | reply :: rest => ({ store with replies := rest }, reply)

/-- The message of a failed write. -/
def writeFailure : String := "write refused"

/-- Adds an entry to a stream, unless this write request is the one that fails. -/
def add (store : StreamStore) (stream : String) (entry : StreamEntry) :
    StreamStore × Option String :=
  let store := { store with requests := store.requests.push (stream, entry) }
  if store.failingWrite == some store.requests.size then (store, some writeFailure)
  else ({ store with written := store.written.push (stream, entry) }, none)

/-- The scripted store as a client. -/
def client : StreamClient StreamStore := ⟨add, query⟩

end StreamStore

/-- Reads a row from a stream entry. -/
def readStreamEntry (entry : StreamEntry) : Except RowError ReplayRow := do
  let qty ← (readInt64 (entry.text "qty")).mapError (.integer "qty")
  let price ← (Decimal.ofText? (entry.text "price")).mapError .price
  let side ← (readSide (entry.text "side")).mapError .side
  let time ← (Instant.parseRfc3339 (entry.text "ts")).mapError (.time "ts")
  let seq := match readInt64 (entry.text "seq") with
    | .ok n => n
    | .error e => e.fallback
  return ⟨entry.text "order_id", ReplayAction.ofText (entry.text "action"), qty, price, side, time, seq⟩

/-- The entry that records a row in a stream. -/
def ReplayRow.toEntry (row : ReplayRow) (id : String) : StreamEntry :=
  ⟨id, [("order_id", some row.orderId),
    ("action", some (String.singleton (Char.ofNat row.action.code.toNat))),
    ("qty", some (toString row.qty.toInt)), ("price", some row.price.toText),
    ("side", some (sideLetter row.side)), ("ts", some row.time.toRfc3339),
    ("seq", some (toString row.seq.toInt))]⟩

/-- A reader of a stream over an interval. -/
structure StreamCursor where
  stream : String
  /-- The entries asked for at a time. -/
  pageSize : Int64
  /-- Where the next page starts. -/
  pageStart : String
  /-- Where pages end. -/
  stop : String
  /-- The interval read. -/
  interval : ReplayInterval
  /-- Entries received and not yet read. -/
  buffer : List StreamEntry
  /-- Whether the last page has been received. -/
  done : Bool
  deriving Repr, Inhabited

/-- Why reading a stream failed. -/
inductive StreamError where
  /-- The store failed to give a page. -/
  | fetch (stream : String) (message : String)
  /-- An entry is not a row. -/
  | entry (stream : String) (id : String) (error : RowError)
  deriving Repr

/-- The message of a stream error. -/
def StreamError.message : StreamError → String
  | .fetch stream message => "xrange " ++ stream ++ ": " ++ message
  | .entry stream id error => "stream " ++ stream ++ " message " ++ id ++ ": " ++ error.message

/-- What reading a stream gave. -/
inductive StreamStep where
  /-- A row. -/
  | row (row : ReplayRow)
  /-- The stream has no more rows. -/
  | finished
  /-- Reading failed. -/
  | failed (error : StreamError)
  deriving Repr

namespace StreamCursor

variable {σ : Type}

/-- A reader of a stream over an interval, asking for pages of `pageSize` entries. -/
def start (stream : String) (pageSize : Int64) (interval : ReplayInterval) : StreamCursor :=
  ⟨stream, pageSize, toString interval.start.unixMillis, toString interval.stop.unixMillis,
    interval, [], false⟩

/-- Reads the next row from the entries received, passing over entries outside the interval. -/
def fromBuffer (cursor : StreamCursor) : List StreamEntry → Option (StreamStep × List StreamEntry)
  | [] => none
  | entry :: rest =>
    match readStreamEntry entry with
    | .error e => some (.failed (.entry cursor.stream entry.id e), rest)
    | .ok row =>
      if cursor.interval.contains row.time then some (.row row, rest) else cursor.fromBuffer rest

/-- Asks the store for the next page. -/
def fetch (client : StreamClient σ) (cursor : StreamCursor) (state : σ) :
    StreamCursor × σ × Option StreamError :=
  let (state, reply) :=
    client.xRangeN state ⟨cursor.stream, cursor.pageStart, cursor.stop, cursor.pageSize⟩
  match reply with
  | .error message => (cursor, state, some (.fetch cursor.stream message))
  | .ok entries =>
    let done := cursor.done || decide ((entries.length : Int) < cursor.pageSize.toInt)
    match entries.getLast? with
    | none => ({ cursor with done := true }, state, none)
    | some last => ({ cursor with done, buffer := entries, pageStart := "(" ++ last.id }, state, none)

/-- Reads the next row, asking for at most `pages` more pages. -/
def nextWithin (client : StreamClient σ) (cursor : StreamCursor) (state : σ) :
    Nat → StreamCursor × σ × StreamStep
  | 0 => (cursor, state, .finished)
  | pages + 1 =>
    match cursor.fromBuffer cursor.buffer with
    | some (step, rest) => ({ cursor with buffer := rest }, state, step)
    | none =>
      let cursor := { cursor with buffer := [] }
      if cursor.done then (cursor, state, .finished)
      else
        match cursor.fetch client state with
        | (cursor, state, some e) => (cursor, state, .failed e)
        | (cursor, state, none) => cursor.nextWithin client state pages

/-- Reads the next row from the scripted store. Every page request either takes a reply of the
store or, when none is left, ends the stream, so one more request than the store has replies is
always enough. -/
def next (cursor : StreamCursor) (store : StreamStore) : StreamCursor × StreamStore × StreamStep :=
  cursor.nextWithin StreamStore.client store (store.replies.length + 2)

end StreamCursor

/-- The text of a stream id: its millisecond and its sequence number, joined by `-`. -/
def streamIdText (millis : Int) (seq : Nat) : String := toString millis ++ "-" ++ toString seq

/-- A writer of rows to a stream, remembering the last id it gave. -/
structure StreamWriter where
  stream : String
  /-- The millisecond of the last id; `-1` before the first. -/
  lastMillis : Int
  /-- The sequence number of the last id. -/
  lastSeq : Nat
  deriving Repr, Inhabited

namespace StreamWriter

/-- A writer that has written nothing. -/
def new (stream : String) : StreamWriter := ⟨stream, -1, 0⟩

/-- The id of a row written at a millisecond. -/
def nextId (writer : StreamWriter) (millis : Int) : StreamWriter × String :=
  let writer := if millis ≤ writer.lastMillis then { writer with lastSeq := writer.lastSeq + 1 }
    else { writer with lastMillis := millis, lastSeq := 0 }
  (writer, streamIdText writer.lastMillis writer.lastSeq)

variable {σ : Type} (client : StreamClient σ)

/-- Writes rows in the order given; stops at the first write the store refuses. Gives the rows
written and the failure. -/
def appendRows (writer : StreamWriter) (state : σ) :
    List ReplayRow → Nat → StreamWriter × σ × Nat × Option String
  | [], count => (writer, state, count, none)
  | row :: rest, count =>
    let (writer, id) := writer.nextId row.time.unixMillis
    match client.xAdd state writer.stream (row.toEntry id) with
    | (state, some failure) =>
      (writer, state, count, some ("xadd " ++ writer.stream ++ " " ++ id ++ ": " ++ failure))
    | (state, none) => appendRows writer state rest (count + 1)

/-- Writes rows in replay order. -/
def append (writer : StreamWriter) (state : σ) (rows : List ReplayRow) :
    StreamWriter × σ × Nat × Option String :=
  writer.appendRows client state (sortRows rows) 0

/-- Writes rows in batches of the given sizes, each batch in replay order: the client's state at
the end, and for each batch the rows written and the failure. -/
def appendBatches (writer : StreamWriter) (state : σ) (rows : List ReplayRow) :
    List Nat → σ × List (Nat × Option String)
  | [] => (state, [])
  | size :: sizes =>
    let (writer, state, written, failure) := writer.append client state (rows.take size)
    let (state, results) := writer.appendBatches state (rows.drop size) sizes
    (state, (written, failure) :: results)

end StreamWriter

end Bourse
