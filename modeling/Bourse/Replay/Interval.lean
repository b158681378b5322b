import Bourse.Time.Layout
import Bourse.Text.Quote

/-!
# Replay intervals

A replay covers a closed interval of time: a row is replayed when its time is neither before the
start nor after the end. Both ends are read with one layout; an interval whose end is before its
start is refused.
-/

namespace Bourse

/-- A closed interval of time. -/
structure ReplayInterval where
  /-- The first instant covered. -/
  start : Instant
  /-- The last instant covered. -/
  stop : Instant
  deriving Repr, Inhabited

/-- Why an interval could not be read. -/
inductive IntervalError where
  /-- The start, given as these bytes, does not match the layout. -/
  | start (text : List UInt8) (error : TimeParseError)
  /-- The end, given as these bytes, does not match the layout. -/
  | stop (text : List UInt8) (error : TimeParseError)
  /-- The end is before the start. -/
  | reversed
  deriving Repr

/-- The message of an interval error. -/
def IntervalError.message : IntervalError → String
  | .start text error => "parse start " ++ quoteBytes text ++ ": " ++ error.message
  | .stop text error => "parse end " ++ quoteBytes text ++ ": " ++ error.message
  | .reversed => "replay end before start"

namespace ReplayInterval

/-- Whether an instant lies in the interval, both ends included. -/
def contains (interval : ReplayInterval) (moment : Instant) : Bool :=
  interval.start.nanos ≤ moment.nanos && moment.nanos ≤ interval.stop.nanos

/-- Refuses an interval that ends before it starts. -/
def validate (interval : ReplayInterval) : Except IntervalError Unit :=
  if interval.stop.nanos < interval.start.nanos then .error .reversed else .ok ()

/-- Reads an interval from the bytes of its ends, which need not be UTF-8, with the ends read
so far when it fails. -/
def read (layout : String) (start stop : List UInt8) : ReplayInterval × Option IntervalError :=
  match Instant.read layout start with
  | .error e => (⟨Instant.zero, Instant.zero⟩, some (.start start e))
  | .ok first =>
    match Instant.read layout stop with
    | .error e => (⟨Instant.zero, Instant.zero⟩, some (.stop stop e))
    | .ok last =>
      let interval : ReplayInterval := ⟨first, last⟩
      match interval.validate with
      | .error e => (interval, some e)
      | .ok () => (interval, none)

/-- Reads an interval from the texts of its ends, with the ends read so far when it fails. -/
def parse (layout start stop : String) : ReplayInterval × Option IntervalError :=
  read layout start.toUTF8.toList stop.toUTF8.toList

end ReplayInterval

end Bourse
