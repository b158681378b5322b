/-!
# Instants and durations

An instant is a count of nanoseconds since the first moment of year 1 in UTC, in the
proleptic Gregorian calendar. The zero instant is that moment: it stands for "no time given".
A duration is a signed count of nanoseconds.

The calendar conversion counts days in 400-year eras of 146097 days, the period after which
the Gregorian calendar repeats; `civilOfDays` inverts `daysOfCivil`.
-/

namespace Bourse

/-- Nanoseconds in one second. -/
def nanosPerSecond : Int := 1000000000

/-- Nanoseconds in one day. -/
def nanosPerDay : Int := 86400 * nanosPerSecond

/-- A signed span of time in nanoseconds. -/
structure Duration where
  /-- The length in nanoseconds. -/
  nanos : Int
  deriving Repr, DecidableEq, Inhabited

namespace Duration

/-- One nanosecond. -/
def nanosecond : Duration := ⟨1⟩
/-- One millisecond. -/
def millisecond : Duration := ⟨1000000⟩
/-- One second. -/
def second : Duration := ⟨nanosPerSecond⟩
/-- One minute. -/
def minute : Duration := ⟨60 * nanosPerSecond⟩
/-- One hour. -/
def hour : Duration := ⟨3600 * nanosPerSecond⟩

/-- A whole number of milliseconds. -/
def ofMillis (millis : Int) : Duration := ⟨millis * 1000000⟩

/-- The whole milliseconds in the duration, truncated toward zero. -/
def toMillis (span : Duration) : Int := span.nanos.tdiv 1000000

instance : LE Duration := ⟨fun a b => a.nanos ≤ b.nanos⟩
instance : LT Duration := ⟨fun a b => a.nanos < b.nanos⟩
instance (a b : Duration) : Decidable (a ≤ b) := inferInstanceAs (Decidable (a.nanos ≤ b.nanos))
instance (a b : Duration) : Decidable (a < b) := inferInstanceAs (Decidable (a.nanos < b.nanos))

end Duration

/-- A moment in time: nanoseconds since 0001-01-01T00:00:00 UTC. -/
structure Instant where
  /-- Nanoseconds since the first moment of year 1, UTC. -/
  nanos : Int
  deriving Repr, DecidableEq, Inhabited

/-- A calendar date and time of day in UTC. -/
structure CivilTime where
  /-- The year, which may be zero or negative. -/
  year : Int
  /-- The month, 1 to 12. -/
  month : Nat
  /-- The day of the month, from 1. -/
  day : Nat
  /-- The hour, 0 to 23. -/
  hour : Nat
  /-- The minute, 0 to 59. -/
  minute : Nat
  /-- The second, 0 to 59. -/
  second : Nat
  /-- The nanosecond within the second. -/
  nanosecond : Nat
  deriving Repr, DecidableEq

/-- Whether a year has a 29th of February. -/
def isLeapYear (year : Int) : Bool :=
  year % 4 == 0 && (year % 100 != 0 || year % 400 == 0)

/-- The number of days in a month of a year. -/
def daysInMonth (year : Int) (month : Nat) : Nat :=
  match month with
  | 2 => if isLeapYear year then 29 else 28
  | 4 | 6 | 9 | 11 => 30
  | _ => 31

/-- Days from 0001-01-01 to the given date. Months are counted from March so that the leap
day ends a year; a year of that shifted calendar starts on day `(153 · m + 2) / 5` of March. -/
def daysOfCivil (year : Int) (month day : Nat) : Int :=
  let shiftedYear := if month ≤ 2 then year - 1 else year
  let era := shiftedYear / 400
  let yearOfEra := shiftedYear - era * 400
  let monthFromMarch : Int := ((month + 9) % 12 : Nat)
  let dayOfYear := (153 * monthFromMarch + 2) / 5 + day - 1
  let dayOfEra := yearOfEra * 365 + yearOfEra / 4 - yearOfEra / 100 + dayOfYear
  era * 146097 + dayOfEra - 306

/-- The date `days` days after 0001-01-01, as year, month and day. -/
def civilOfDays (days : Int) : Int × Nat × Nat :=
  let shifted := days + 306
  let era := shifted / 146097
  let dayOfEra := shifted - era * 146097
  let yearOfEra := (dayOfEra - dayOfEra / 1460 + dayOfEra / 36524 - dayOfEra / 146096) / 365
  let dayOfYear := dayOfEra - (365 * yearOfEra + yearOfEra / 4 - yearOfEra / 100)
  let monthFromMarch := (5 * dayOfYear + 2) / 153
  let day := dayOfYear - (153 * monthFromMarch + 2) / 5 + 1
  let month := if monthFromMarch < 10 then monthFromMarch + 3 else monthFromMarch - 9
  let year := yearOfEra + era * 400 + (if month ≤ 2 then 1 else 0)
  (year, month.toNat, day.toNat)

namespace Instant

/-- The zero instant, 0001-01-01T00:00:00Z, which stands for an absent time. -/
def zero : Instant := ⟨0⟩

/-- Whether this is the zero instant. -/
def isZero (moment : Instant) : Bool := moment.nanos == 0

/-- Days from 0001-01-01 to 1970-01-01. -/
def unixEpochDays : Int := 719162

/-- The instant of a calendar time in UTC. Fields out of their usual range carry over, so
month 13 is January of the next year and second 60 the next minute. -/
def ofCivil (time : CivilTime) : Instant :=
  let monthIndex : Int := (time.month : Int) - 1
  let year := time.year + monthIndex / 12
  let month := (monthIndex % 12).toNat + 1
  let days := daysOfCivil year month 1 + ((time.day : Int) - 1)
  ⟨days * nanosPerDay + ((time.hour * 3600 + time.minute * 60 + time.second : Nat) : Int) * nanosPerSecond
    + time.nanosecond⟩

/-- The calendar time of an instant in UTC. -/
def toCivil (moment : Instant) : CivilTime :=
  let days := moment.nanos / nanosPerDay
  let withinDay := (moment.nanos % nanosPerDay).toNat
  let (year, month, day) := civilOfDays days
  let seconds := withinDay / 1000000000
  { year, month, day,
    hour := seconds / 3600, minute := seconds / 60 % 60, second := seconds % 60,
    nanosecond := withinDay % 1000000000 }

/-- The day of the week, Sunday being 0; 0001-01-01 was a Monday. -/
def weekday (moment : Instant) : Nat := ((moment.nanos / nanosPerDay + 1) % 7).toNat

/-- The day of the year, from 1. -/
def yearDay (moment : Instant) : Nat :=
  let civil := moment.toCivil
  ((moment.nanos / nanosPerDay) - daysOfCivil civil.year 1 1 + 1).toNat

/-- The instant a duration later. -/
def add (moment : Instant) (span : Duration) : Instant := ⟨moment.nanos + span.nanos⟩

/-- The duration from `earlier` to `moment`. -/
def since (moment earlier : Instant) : Duration := ⟨moment.nanos - earlier.nanos⟩

/-- The instant rounded down to a multiple of `span` counted from the zero instant; a span that
is not positive leaves the instant as it is. -/
def truncate (moment : Instant) (span : Duration) : Instant :=
  if span.nanos ≤ 0 then moment else ⟨moment.nanos - moment.nanos % span.nanos⟩

/-- The instant at a whole number of milliseconds since 1970-01-01T00:00:00Z. -/
def ofUnixMillis (millis : Int) : Instant :=
  ⟨unixEpochDays * nanosPerDay + millis * 1000000⟩

/-- The instant at a number of nanoseconds since 1970-01-01T00:00:00Z. -/
def ofUnixNanos (nanos : Int) : Instant := ⟨unixEpochDays * nanosPerDay + nanos⟩

/-- The whole milliseconds since 1970-01-01T00:00:00Z, rounded down. -/
def unixMillis (moment : Instant) : Int := (moment.nanos - unixEpochDays * nanosPerDay) / 1000000

/-- The whole seconds since 1970-01-01T00:00:00Z, rounded down. -/
def unixSeconds (moment : Instant) : Int := (moment.nanos - unixEpochDays * nanosPerDay) / nanosPerSecond

instance : LE Instant := ⟨fun a b => a.nanos ≤ b.nanos⟩
instance : LT Instant := ⟨fun a b => a.nanos < b.nanos⟩
instance (a b : Instant) : Decidable (a ≤ b) := inferInstanceAs (Decidable (a.nanos ≤ b.nanos))
instance (a b : Instant) : Decidable (a < b) := inferInstanceAs (Decidable (a.nanos < b.nanos))

end Instant

end Bourse
