import Bourse.Net.Url
import Bourse.Replay.Source
import Bourse.Time.DurationText

/-!
# Reaching the stream store

A stream source reads from a message store that it reaches at a URL: `redis://` or `rediss://`
with a host (`localhost` when none), a port (6379 when none) and at most one path segment, the
number of the database; or `unix://` with the path of a socket. The query may name the
database and set connection options, each read in a fixed order and checked for its kind of
value (a number, a span of time, a flag); any other parameter is refused.

No store answers here: a network address refuses the connection, and a socket path does not
exist. So reaching the store always fails, either because its URL is unusable or because the
first request to it gets no answer.
-/

namespace Bourse

/-- Where the message store is. -/
inductive StoreAddress where
  /-- A host and port on the network. -/
  | network (host : String) (port : String)
  /-- A socket on this machine. -/
  | socket (path : String)
  deriving Repr, DecidableEq

/-- How a connection option's value is read. -/
inductive OptionKind where
  /-- A whole number. -/
  | number
  /-- A span of time: a whole number of seconds, or a duration in writing. -/
  | duration
  /-- A flag: `true`, `1`, `false`, `0` or nothing. -/
  | flag
  /-- Any text. -/
  | text
  deriving Repr, DecidableEq

/-- One step of reading the connection options. -/
inductive OptionStep where
  /-- Reads the named option. -/
  | read (name : String) (kind : OptionKind)
  /-- Reads the duration `name` when it is given, else the duration `fallback`. -/
  | preferring (name fallback : String)
  deriving Repr, DecidableEq

/-- The connection options, in the order they are read after the database. -/
def storeOptionSteps : List OptionStep :=
  [.read "protocol" .number, .read "client_name" .text, .read "max_retries" .number,
   .read "min_retry_backoff" .duration, .read "max_retry_backoff" .duration,
   .read "dial_timeout" .duration, .read "read_timeout" .duration,
   .read "write_timeout" .duration, .read "pool_fifo" .flag, .read "pool_size" .number,
   .read "pool_timeout" .duration, .read "min_idle_conns" .number,
   .read "max_idle_conns" .number, .read "max_active_conns" .number,
   .preferring "conn_max_idle_time" "idle_timeout",
   .preferring "conn_max_lifetime" "max_conn_age"]

/-- The query parameters of a store URL while they are read: the pairs not read yet, the first
bad value met, and the dial timeout in nanoseconds (zero when not set). -/
structure OptionReader where
  /-- The parameters not read yet, in order. -/
  pairs : List (String × String)
  /-- The first bad value met. -/
  failure : Option String
  /-- The dial timeout in nanoseconds; zero when not set, negative when turned off. -/
  dialTimeout : Int

namespace OptionReader

/-- The last value of a parameter, or the empty text, taking the parameter out. -/
def take (r : OptionReader) (name : String) : OptionReader × String :=
  let values := (r.pairs.filter (·.1 == name)).map (·.2)
  ({ r with pairs := r.pairs.filter (·.1 != name) }, values.getLast?.getD "")

/-- Notes a bad value, unless one was met before. -/
def fail (r : OptionReader) (message : String) : OptionReader :=
  if r.failure.isNone then { r with failure := some message } else r

/-- Reads a span of time in nanoseconds: a whole number of seconds, where zero or less turns
the timeout off (`-1`) and the count wraps around at 64 bits, or else a duration in writing. -/
def readSpan (r : OptionReader) (name text : String) : OptionReader × Int :=
  if text.isEmpty then (r, 0)
  else match readSigned false 64 text with
    | .ok n => (r, if n ≤ 0 then -1 else (Int64.ofInt n * 1000000000).toInt)
    | .error _ =>
      match Duration.ofText? text with
      | .ok span => (r, span.nanos)
      | .error e => (r.fail ("redis: invalid " ++ name ++ " duration: " ++ e.message), 0)

/-- Reads one option of a kind; the answer is the nanoseconds of a duration, else zero. -/
def readKind (r : OptionReader) (name : String) (kind : OptionKind) : OptionReader × Int :=
  let (r, text) := r.take name
  match kind with
  | .number =>
    if text.isEmpty then (r, 0)
    else match readSigned false 64 text with
      | .ok _ => (r, 0)
      | .error e => (r.fail ("redis: invalid " ++ name ++ " number: " ++ e.wholeMessage), 0)
  | .duration => r.readSpan name text
  | .flag =>
    if ["true", "1", "false", "0", ""].contains text then (r, 0)
    else (r.fail ("redis: invalid " ++ name ++
      " boolean: expected true/false/1/0 or an empty string, got " ++ quoteText text), 0)
  | .text => (r, 0)

/-- Takes one step of reading, keeping the dial timeout. -/
def step (r : OptionReader) : OptionStep → OptionReader
  | .read name kind =>
    let (r, value) := r.readKind name kind
    if name == "dial_timeout" then { r with dialTimeout := value } else r
  | .preferring name fallback =>
    let chosen := if r.pairs.any (·.1 == name) then name else fallback
    (r.readKind chosen .duration).1

end OptionReader

/-- Reads a store URL's query: the database, when the query names one, then every connection
option in order. The first bad value is the failure; after that, parameters that are not
options are refused, named in order. The answer is the dial timeout in nanoseconds. -/
def readStoreOptions (url : Net.Url) : Except String Int := do
  let reader : OptionReader := ⟨Net.queryPairs url.query, none, 0⟩
  let (reader, db) := reader.take "db"
  if !db.isEmpty then
    match readSigned false 64 db with
    | .ok _ => pure ()
    | .error e => throw ("redis: invalid database number: " ++ e.wholeMessage)
  let reader := storeOptionSteps.foldl OptionReader.step reader
  if let some failure := reader.failure then throw failure
  let unknown := (reader.pairs.map (·.1)).foldl
    (fun seen n => if seen.contains n then seen else seen ++ [n]) []
  let unknown := unknown.mergeSort fun a b => decide (a ≤ b)
  if !unknown.isEmpty then throw ("redis: unexpected option: " ++ ", ".intercalate unknown)
  return reader.dialTimeout

/-- The pieces of a path between slashes, empty ones left out. -/
def pathSegments (bytes : List UInt8) : List (List UInt8) :=
  ((bytes.splitOn 47).filter (!·.isEmpty))

/-- The address of the store a URL names, with the dial timeout its query sets. -/
def StoreAddress.parse (text : String) : Except String (StoreAddress × Int) := do
  let url ← Net.Url.parse text
  if url.scheme == "redis" || url.scheme == "rediss" then
    let (host, port) := match Net.splitHostPort url.host with
      | .ok (host, port) => (host, port)
      | .error _ => (url.host, "")
    match pathSegments url.pathBytes with
    | [] => pure ()
    | [db] =>
      if (readSigned false 64 (lossyText db)).toOption.isNone then
        throw ("redis: invalid database number: " ++ quoteBytes db)
    | _ => throw ("redis: invalid URL path: " ++ url.path)
    let timeout ← readStoreOptions url
    return (.network (if host.isEmpty then "localhost" else host)
      (if port.isEmpty then "6379" else port), timeout)
  else if url.scheme == "unix" then
    if url.path.trimAscii.isEmpty then throw "redis: empty unix socket path"
    let timeout ← readStoreOptions url
    return (.socket url.path, timeout)
  else throw ("redis: invalid URL scheme: " ++ url.scheme)

/-- Whether a dial timeout runs out before a connection can be tried: a timeout turned off
(negative) has already passed, and one under a microsecond passes before the attempt. -/
def timesOutAtOnce (timeout : Int) : Bool := timeout < 0 || (0 < timeout && timeout < 1000)

/-- Why the first request to a store at an address gets no answer, given whether the dial
timeout runs out at once: then a host name times out while it is looked up, and an address
while it is dialled. -/
def StoreAddress.dialError (address : StoreAddress) (timedOut : Bool) : String :=
  match address with
  | .socket path =>
    "dial unix " ++ path ++ (if timedOut then ": i/o timeout" else ": connect: no such file or directory")
  | .network host port =>
    match Net.lookupPort port with
    | .error e => "dial tcp: " ++ e.message
    | .ok number =>
      let literal := (Net.ipv4Parts? host).isSome || host.contains ':'
      if timedOut && !literal then "dial tcp: lookup " ++ host ++ ": i/o timeout"
      else match Net.resolveHost host with
        | .error e => "dial tcp: " ++ e.message
        | .ok (ip, _) =>
          "dial tcp " ++ Net.joinHostPort ip number ++
            (if timedOut then ": i/o timeout" else ": connect: connection refused")

/-- Tries to reach the store at a URL. -/
def dialStore (url : String) : Except String Unit :=
  match StoreAddress.parse url with
  | .error e => .error ("invalid redis URL: " ++ e)
  | .ok (address, timeout) => .error ("redis ping failed: " ++ address.dialError (timesOutAtOnce timeout))

/-- The source a replay's settings name: a file is opened when the replay runs, while a stream
needs its store to answer first; any other kind is unknown. -/
def ReplaySource.connect (kind path : String) (contents : Option String) (layout url stream : String)
    (pageSize : Int64) : Except String ReplaySource :=
  if kind == "csv" then .ok (ReplaySource.ofFile path contents layout)
  else if kind == "redis" then (dialStore url).map fun () => ReplaySource.ofStream stream pageSize
  else .error ("unknown replay source " ++ quoteText kind)

end Bourse
