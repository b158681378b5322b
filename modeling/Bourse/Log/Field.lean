import Bourse.Decimal.Text
import Bourse.Time.DurationText

/-!
# Log records

A log record carries a level, a message and named fields. A field holds text, an integer, a
decimal number, a truth value, a time or a duration; the log encoders decide how each is
written.
-/

namespace Bourse

/-- The value of a log field. -/
inductive FieldValue where
  | text (value : String)
  | int (value : Int)
  /-- A fractional number, kept as the exact decimal it was given as. -/
  | number (value : Decimal)
  | bool (value : Bool)
  | time (value : Instant)
  | duration (value : Duration)
  deriving Repr, Inhabited

/-- A named log field. -/
abbrev Field := String × FieldValue

/-- How severe a log record is. -/
inductive LogLevel where
  | debug
  | info
  | warn
  | error
  deriving DecidableEq, Repr, Inhabited

namespace LogLevel

/-- The rank of the level: a logger set to a level writes records of that rank and above. -/
def rank : LogLevel → Nat
  | .debug => 0
  | .info => 1
  | .warn => 2
  | .error => 3

/-- The lower-case name of the level. -/
def name : LogLevel → String
  | .debug => "debug"
  | .info => "info"
  | .warn => "warn"
  | .error => "error"

end LogLevel

/-- A record a component hands to its logger: a level, a message and fields. -/
structure LogRecord where
  /-- How severe it is. -/
  level : LogLevel
  /-- What happened, briefly. -/
  message : String
  /-- The details. -/
  fields : List Field
  deriving Repr, Inhabited

end Bourse
