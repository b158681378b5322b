import Bourse.Replay.Archive
import Bourse.Replay.Stream

/-!
# Replay sources

A replay reads its rows from a source: an archive file, read whole, filtered to the interval
and put in replay order; or an archive stream, read page by page in the order of its ids.
Opening a source over an interval gives a cursor that hands out rows one at a time until it
reports the end. A file source reads the file when it is opened, so a bad file fails the
opening; a stream source only checks the interval then, and fails while reading.

Reading a file stops when the replay is cancelled; reading a stream does not look at it.
-/

namespace Bourse

/-- Where a replay's rows come from. -/
inductive ReplaySource where
  /-- An archive file: its path, its contents (`none` when there is no such file), and the
  layout of its times. -/
  | file (path : String) (contents : Option String) (layout : String)
  /-- An archive stream and the entries asked for at a time. -/
  | stream (name : String) (pageSize : Int64)
  deriving Repr, Inhabited

namespace ReplaySource

/-- A file source; times default to RFC 3339. -/
def ofFile (path : String) (contents : Option String) (layout : String) : ReplaySource :=
  .file path contents (if layout.isEmpty then rfc3339 else layout)

/-- A stream source; a page size that is not positive becomes 500. -/
def ofStream (name : String) (pageSize : Int64) : ReplaySource :=
  .stream name (if pageSize ≤ 0 then 500 else pageSize)

/-- A source of a kind named in configuration: only files are known here. -/
def ofKind (kind path : String) (contents : Option String) (layout : String) :
    Except String ReplaySource :=
  if kind == "csv" then .ok (ofFile path contents layout)
  else .error ("unknown replay source " ++ quoteText kind)

end ReplaySource

/-- Why opening or reading a source failed. -/
inductive SourceError where
  /-- The archive file could not be read. -/
  | archive (error : ArchiveError)
  /-- The interval ends before it starts. -/
  | interval (error : IntervalError)
  /-- Reading the stream failed. -/
  | stream (error : StreamError)
  deriving Repr

/-- The message of a source error. -/
def SourceError.message : SourceError → String
  | .archive error => error.message
  | .interval error => error.message
  | .stream error => error.message

/-- A source opened over an interval. -/
inductive ReplayCursor where
  /-- The rows of a file still to hand out, in replay order. -/
  | rows (rows : List ReplayRow)
  /-- A stream being read. -/
  | stream (cursor : StreamCursor)
  deriving Repr, Inhabited

/-- What asking a cursor for a row gave. -/
inductive CursorStep where
  /-- The next row. -/
  | row (row : ReplayRow)
  /-- There are no more rows. -/
  | finished
  /-- The replay was cancelled. -/
  | cancelled
  /-- Reading failed. -/
  | failed (error : SourceError)
  deriving Repr

/-- Opens a source over an interval. -/
def ReplaySource.openCursor (source : ReplaySource) (interval : ReplayInterval) :
    Except SourceError ReplayCursor :=
  match source with
  | .file path contents layout =>
    match readArchive path contents layout with
    | .error e => .error (.archive e)
    | .ok rows => .ok (.rows (sortRows (rows.filter fun row => interval.contains row.time)))
  | .stream name pageSize =>
    match interval.validate with
    | .error e => .error (.interval e)
    | .ok () => .ok (.stream (StreamCursor.start name pageSize interval))

/-- Asks a cursor for the next row; `cancelled` says whether the replay was cancelled. -/
def ReplayCursor.next (cursor : ReplayCursor) (store : StreamStore) (cancelled : Bool) :
    ReplayCursor × StreamStore × CursorStep :=
  match cursor with
  | .rows pending =>
    if cancelled then (cursor, store, .cancelled)
    else match pending with
      | [] => (cursor, store, .finished)
      | row :: rest => (.rows rest, store, .row row)
  | .stream reader =>
    let (reader, store, step) := reader.next store
    let step : CursorStep := match step with
      | .row row => .row row
      | .finished => .finished
      | .failed e => .failed (.stream e)
    (.stream reader, store, step)

/-- A bound on the rows a cursor can still hand out: the rows left in a file, or the entries
received and still to come from a stream. -/
def ReplayCursor.bound (cursor : ReplayCursor) (store : StreamStore) : Nat :=
  match cursor with
  | .rows pending => pending.length
  | .stream reader =>
    reader.buffer.length + store.replies.foldl (fun total reply =>
      match reply with
      | .ok entries => total + entries.length
      | .error _ => total) 0

/-- Closes a cursor: it hands out no more rows. -/
def ReplayCursor.close : ReplayCursor → ReplayCursor
  | .rows _ => .rows []
  | .stream reader => .stream { reader with buffer := [], done := true }

/-- Takes rows from a cursor until it reports anything else, for at most `budget` rows; gives
the rows and what ended them. -/
def ReplayCursor.takeWithin (store : StreamStore) (cancelled : Bool) :
    ReplayCursor → Nat → ReplayCursor × StreamStore × List ReplayRow × CursorStep
  | cursor, 0 => (cursor, store, [], .finished)
  | cursor, budget + 1 =>
    match cursor.next store cancelled with
    | (cursor, store, .row row) =>
      let (cursor, store, later, last) := ReplayCursor.takeWithin store cancelled cursor budget
      (cursor, store, row :: later, last)
    | (cursor, store, step) => (cursor, store, [], step)

/-- Takes every row a cursor hands out, and what ended them. -/
def ReplayCursor.takeAll (cursor : ReplayCursor) (store : StreamStore) (cancelled : Bool) :
    ReplayCursor × StreamStore × List ReplayRow × CursorStep :=
  ReplayCursor.takeWithin store cancelled cursor (cursor.bound store + 1)

end Bourse
