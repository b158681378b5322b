import Bourse.Time.Instant

/-!
# Time layouts

A layout describes how a time is written by writing one reference moment,
`Mon Jan 2 15:04:05 MST 2006` (offset `-0700`), the way the times should look: `2006` stands
for the four-digit year, `01` for the two-digit month, `15` for the hour on a 24-hour clock,
`.000` for three fractional digits, `Z07:00` for the zone (written `Z` for UTC), and so on.
Anything else is literal text.

`Layout.chunks` splits a layout into literal text and elements, reading left to right and
taking the first element that starts at each position. `format` writes a UTC instant with a
layout; `parse` reads one, reporting the first place where the text does not fit the layout.
-/

namespace Bourse

/-- The elements a layout can hold. -/
inductive LayoutElement where
  | longMonth | month | numMonth | zeroMonth
  | longWeekDay | weekDay
  | day | underDay | zeroDay
  | underYearDay | zeroYearDay
  | hour | hour12 | zeroHour12
  | minute | zeroMinute
  | second | zeroSecond
  | longYear | year
  | pmUpper | pmLower
  | zoneName
  | isoZone | isoZoneShort | isoZoneColon | isoZoneSeconds | isoZoneColonSeconds
  | numZone | numZoneShort | numZoneColon | numZoneSeconds | numZoneColonSeconds
  /-- Fractional seconds with exactly `digits` digits after the separator. -/
  | fractionFixed (digits : Nat) (separator : Char)
  /-- Fractional seconds with at most `digits` digits, trailing zeros dropped. -/
  | fractionTrimmed (digits : Nat) (separator : Char)
  deriving Repr, DecidableEq

/-- A piece of a layout: literal text or an element, with the text the element was written as. -/
inductive LayoutChunk where
  | literal (text : String)
  | element (kind : LayoutElement) (written : String)
  deriving Repr, DecidableEq

/-- The reference layout of RFC 3339 with nanoseconds, trailing zeros dropped. -/
def rfc3339Nano : String := "2006-01-02T15:04:05.999999999Z07:00"

/-- The reference layout of RFC 3339 in whole seconds. -/
def rfc3339 : String := "2006-01-02T15:04:05Z07:00"

namespace Layout

/-- Whether the text starts with a lower-case ASCII letter. -/
def startsLower : List Char → Bool
  | c :: _ => 'a' ≤ c && c ≤ 'z'
  | [] => false

/-- The element starting at the front of `text`, with its length, if one does. -/
def elementAt (text : List Char) : Option (LayoutElement × Nat) :=
  match text with
  | 'J' :: 'a' :: 'n' :: rest =>
    match rest with
    | 'u' :: 'a' :: 'r' :: 'y' :: _ => some (.longMonth, 7)
    | _ => if startsLower rest then none else some (.month, 3)
  | 'M' :: 'o' :: 'n' :: rest =>
    match rest with
    | 'd' :: 'a' :: 'y' :: _ => some (.longWeekDay, 6)
    | _ => if startsLower rest then none else some (.weekDay, 3)
  | 'M' :: 'S' :: 'T' :: _ => some (.zoneName, 3)
  | '0' :: '1' :: _ => some (.zeroMonth, 2)
  | '0' :: '2' :: _ => some (.zeroDay, 2)
  | '0' :: '3' :: _ => some (.zeroHour12, 2)
  | '0' :: '4' :: _ => some (.zeroMinute, 2)
  | '0' :: '5' :: _ => some (.zeroSecond, 2)
  | '0' :: '6' :: _ => some (.year, 2)
  | '0' :: '0' :: '2' :: _ => some (.zeroYearDay, 3)
  | '1' :: '5' :: _ => some (.hour, 2)
  | '1' :: _ => some (.numMonth, 1)
  | '2' :: '0' :: '0' :: '6' :: _ => some (.longYear, 4)
  | '2' :: _ => some (.day, 1)
  | '_' :: '2' :: rest =>
    match rest with
    | '0' :: '0' :: '6' :: _ => none
    | _ => some (.underDay, 2)
  | '_' :: '_' :: '2' :: _ => some (.underYearDay, 3)
  | '3' :: _ => some (.hour12, 1)
  | '4' :: _ => some (.minute, 1)
  | '5' :: _ => some (.second, 1)
  | 'P' :: 'M' :: _ => some (.pmUpper, 2)
  | 'p' :: 'm' :: _ => some (.pmLower, 2)
  | '-' :: '0' :: '7' :: '0' :: '0' :: '0' :: '0' :: _ => some (.numZoneSeconds, 7)
  | '-' :: '0' :: '7' :: ':' :: '0' :: '0' :: ':' :: '0' :: '0' :: _ => some (.numZoneColonSeconds, 9)
  | '-' :: '0' :: '7' :: '0' :: '0' :: _ => some (.numZone, 5)
  | '-' :: '0' :: '7' :: ':' :: '0' :: '0' :: _ => some (.numZoneColon, 6)
  | '-' :: '0' :: '7' :: _ => some (.numZoneShort, 3)
  | 'Z' :: '0' :: '7' :: '0' :: '0' :: '0' :: '0' :: _ => some (.isoZoneSeconds, 7)
  | 'Z' :: '0' :: '7' :: ':' :: '0' :: '0' :: ':' :: '0' :: '0' :: _ => some (.isoZoneColonSeconds, 9)
  | 'Z' :: '0' :: '7' :: '0' :: '0' :: _ => some (.isoZone, 5)
  | 'Z' :: '0' :: '7' :: ':' :: '0' :: '0' :: _ => some (.isoZoneColon, 6)
  | 'Z' :: '0' :: '7' :: _ => some (.isoZoneShort, 3)
  | separator :: digit :: rest =>
    if (separator == '.' || separator == ',') && (digit == '0' || digit == '9') then
      let count := 1 + (rest.takeWhile (· == digit)).length
      match rest.drop (count - 1) with
      | next :: _ => if next.isDigit then none else some (fraction separator digit count, count + 1)
      | [] => some (fraction separator digit count, count + 1)
    else none
  | _ => none
where
  /-- The fractional element written with `count` repetitions of `digit`. -/
  fraction (separator digit : Char) (count : Nat) : LayoutElement :=
    if digit == '0' then .fractionFixed count separator else .fractionTrimmed count separator

/-- A layout split into literal text and elements. A `_` before `2006` is literal text. -/
def chunks (layout : String) : List LayoutChunk :=
  go layout.toList [] layout.length
where
  /-- Collects literal characters into `pending` until an element starts. -/
  go (text : List Char) (pending : List Char) : Nat → List LayoutChunk
    | 0 => flush pending
    | fuel + 1 =>
      match text with
      | [] => flush pending
      | '_' :: '2' :: '0' :: '0' :: '6' :: rest =>
        flush ('_' :: pending) ++ [.element .longYear "2006"] ++ go rest [] fuel
      | c :: rest =>
        match elementAt text with
        | some (kind, length) =>
          flush pending ++ [.element kind (String.ofList (text.take length))] ++
            go (text.drop length) [] fuel
        | none => go rest (c :: pending) fuel
  /-- The literal chunk of the collected characters, if any. -/
  flush (pending : List Char) : List LayoutChunk :=
    if pending.isEmpty then [] else [.literal (String.ofList pending.reverse)]

end Layout

/-- English month names, January first. -/
def monthNames : List String :=
  ["January", "February", "March", "April", "May", "June", "July", "August", "September",
    "October", "November", "December"]

/-- English day names, Sunday first. -/
def dayNames : List String :=
  ["Sunday", "Monday", "Tuesday", "Wednesday", "Thursday", "Friday", "Saturday"]

/-- A natural number in decimal, padded on the left with `pad` to `width` characters. -/
def padWith (pad : Char) (value width : Nat) : String :=
  let digits := Nat.toDigits 10 value
  String.ofList (List.replicate (width - digits.length) pad ++ digits)

/-- A natural number in decimal, padded on the left with zeros to `width` digits. -/
def padNat (value width : Nat) : String := padWith '0' value width

/-- An integer in decimal with its sign, the magnitude padded with zeros to `width`. -/
def padInt (value : Int) (width : Nat) : String :=
  (if value < 0 then "-" else "") ++ padNat value.natAbs width

/-- The fractional digits of a nanosecond count: `digits` of them, or with trailing zeros
dropped when `trim` is set (nothing at all, not even the separator, for zero). -/
def fractionText (nanosecond : Nat) (digits : Nat) (separator : Char) (trim : Bool) : String :=
  let all := (padNat nanosecond 9).toList.take digits
  if trim then
    let kept := (all.reverse.dropWhile (· == '0')).reverse
    if kept.isEmpty then "" else String.ofList (separator :: kept)
  else String.ofList (separator :: all)

/-- A zone offset, east of UTC in seconds, written the way a numeric zone element asks: a
sign, hours, and as the element has them minutes and seconds, with or without colons. -/
def offsetText (offset : Int) (colons withMinutes withSeconds : Bool) : String :=
  let minutes := offset.tdiv 60
  let sign := if minutes < 0 then "-" else "+"
  let minutes := minutes.natAbs
  let seconds := offset.natAbs % 60
  sign ++ padNat (minutes / 60) 2 ++
    (if withMinutes then (if colons then ":" else "") ++ padNat (minutes % 60) 2 else "") ++
    (if withSeconds then (if colons then ":" else "") ++ padNat seconds 2 else "")

/-- One element of a time in writing; `moment` is the instant moved by the zone offset, and
`civil` its calendar fields. A zone with no offset is UTC; any other zone has no name and is
written as its offset. -/
def formatElement (moment : Instant) (civil : CivilTime) (offset : Int) : LayoutElement → String
  | .longYear => padInt civil.year 4
  | .year => padInt (civil.year.tmod 100) 2
  | .longMonth => monthNames.getD (civil.month - 1) ""
  | .month => String.ofList ((monthNames.getD (civil.month - 1) "").toList.take 3)
  | .numMonth => padNat civil.month 0
  | .zeroMonth => padNat civil.month 2
  | .longWeekDay => dayNames.getD moment.weekday ""
  | .weekDay => String.ofList ((dayNames.getD moment.weekday "").toList.take 3)
  | .day => padNat civil.day 0
  | .underDay => padWith ' ' civil.day 2
  | .zeroDay => padNat civil.day 2
  | .underYearDay => padWith ' ' moment.yearDay 3
  | .zeroYearDay => padNat moment.yearDay 3
  | .hour => padNat civil.hour 2
  | .hour12 => padNat (if civil.hour % 12 == 0 then 12 else civil.hour % 12) 0
  | .zeroHour12 => padNat (if civil.hour % 12 == 0 then 12 else civil.hour % 12) 2
  | .minute => padNat civil.minute 0
  | .zeroMinute => padNat civil.minute 2
  | .second => padNat civil.second 0
  | .zeroSecond => padNat civil.second 2
  | .pmUpper => if civil.hour ≥ 12 then "PM" else "AM"
  | .pmLower => if civil.hour ≥ 12 then "pm" else "am"
  | .zoneName => if offset == 0 then "UTC" else offsetText offset false true false
  | .isoZone => if offset == 0 then "Z" else offsetText offset false true false
  | .isoZoneShort => if offset == 0 then "Z" else offsetText offset false false false
  | .isoZoneColon => if offset == 0 then "Z" else offsetText offset true true false
  | .isoZoneSeconds => if offset == 0 then "Z" else offsetText offset false true true
  | .isoZoneColonSeconds => if offset == 0 then "Z" else offsetText offset true true true
  | .numZone => offsetText offset false true false
  | .numZoneShort => offsetText offset false false false
  | .numZoneColon => offsetText offset true true false
  | .numZoneSeconds => offsetText offset false true true
  | .numZoneColonSeconds => offsetText offset true true true
  | .fractionFixed digits separator => fractionText civil.nanosecond digits separator false
  | .fractionTrimmed digits separator => fractionText civil.nanosecond digits separator true

namespace Instant

/-- The instant written with a layout as seen in a zone `offset` seconds east of UTC. -/
def formatIn (moment : Instant) (offset : Int) (layout : String) : String :=
  let wall : Instant := ⟨moment.nanos + offset * nanosPerSecond⟩
  let civil := wall.toCivil
  String.join ((Layout.chunks layout).map fun
    | .literal text => text
    | .element kind _ => formatElement wall civil offset kind)

/-- The instant written in UTC with a layout. -/
def format (moment : Instant) (layout : String) : String := moment.formatIn 0 layout

/-- The instant in RFC 3339 with nanoseconds, trailing fractional zeros dropped, zone `Z`. -/
def toRfc3339 (moment : Instant) : String := moment.format rfc3339Nano

end Instant

/-- An instant together with the offset of the zone it was given in. -/
structure ZonedTime where
  instant : Instant
  /-- The zone's offset east of UTC, in seconds. -/
  offset : Int
  deriving Repr, Inhabited, DecidableEq

namespace ZonedTime

/-- The zero time, in UTC. -/
def zero : ZonedTime := ⟨Instant.zero, 0⟩

/-- The time written with a layout in its own zone. -/
def format (time : ZonedTime) (layout : String) : String := time.instant.formatIn time.offset layout

/-- The time in RFC 3339 with nanoseconds, in its own zone. -/
def toRfc3339 (time : ZonedTime) : String := time.format rfc3339Nano

/-- Why the time cannot be written as a JSON time, if it cannot: RFC 3339 asks for a year of
four digits, 0 to 9999, in the time's own zone, and for a zone offset under 24 hours. -/
def jsonTimeError? (time : ZonedTime) : Option String :=
  let year := (Instant.mk (time.instant.nanos + time.offset * nanosPerSecond)).toCivil.year
  let problem :=
    if year < 0 || year > 9999 then some "year outside of range [0,9999]"
    else if time.offset != 0 && time.offset.natAbs ≥ 86400 then
      some "timezone hour outside of range [0,23]"
    else none
  problem.map ("json: error calling MarshalJSON for type *time.Time: " ++ ·)

end ZonedTime

/-- Why an instant cannot be written as a JSON time in UTC, if it cannot. -/
def Instant.jsonTimeError? (moment : Instant) : Option String := (ZonedTime.mk moment 0).jsonTimeError?

/-- Bytes of a time text quoted for an error message: ASCII from the space up is kept, with `"`
and `\` escaped; every other byte is written as a `\x` escape. -/
def quoteTimeBytes (bytes : List UInt8) : String :=
  let hex (n : Nat) : Char := "0123456789abcdef".toList.getD n '0'
  let escape (b : UInt8) : String :=
    if b.toNat < 32 || b.toNat ≥ 128 then
      String.ofList ['\\', 'x', hex (b.toNat / 16), hex (b.toNat % 16)]
    else if b == 34 || b == 92 then String.ofList ['\\', Char.ofNat b.toNat]
    else String.singleton (Char.ofNat b.toNat)
  "\"" ++ String.join (bytes.map escape) ++ "\""

/-- A time text quoted for an error message, byte by byte as `quoteTimeBytes` does. -/
def quoteTimeText (text : String) : String := quoteTimeBytes text.toUTF8.toList

/-- Why a text does not fit a layout. The text is kept as its bytes, which need not be UTF-8:
reading goes byte by byte, and the messages show the bytes. -/
inductive TimeParseError where
  /-- The text from the bytes `rest` on does not match the layout piece `expected`. -/
  | mismatch (layout : String) (text : List UInt8) (expected : String) (rest : List UInt8)
  /-- A field has a value outside its range; `field` names it (`month`, `hour`, …). -/
  | outOfRange (text : List UInt8) (field : String)
  /-- The day does not exist in its month. -/
  | dayOutOfRange (text : List UInt8)
  /-- The day of the year names another month or day than the text gave. -/
  | yearDayMismatch (text : List UInt8) (field : String)
  /-- Text is left over after the layout ended. -/
  | extraText (text rest : List UInt8)
  deriving Repr, DecidableEq

/-- The message that reports where the text and the layout part. -/
def TimeParseError.message : TimeParseError → String
  | .mismatch layout text expected rest =>
    "parsing time " ++ quoteTimeBytes text ++ " as " ++ quoteTimeText layout ++ ": cannot parse " ++
      quoteTimeBytes rest ++ " as " ++ quoteTimeText expected
  | .outOfRange text field => "parsing time " ++ quoteTimeBytes text ++ ": " ++ field ++ " out of range"
  | .dayOutOfRange text => "parsing time " ++ quoteTimeBytes text ++ ": day out of range"
  | .yearDayMismatch text field =>
    "parsing time " ++ quoteTimeBytes text ++ ": day-of-year does not match " ++ field
  | .extraText text rest =>
    "parsing time " ++ quoteTimeBytes text ++ ": extra text: " ++ quoteTimeBytes rest

/-- The fields read so far while parsing. -/
structure ParsedFields where
  year : Int := 0
  month : Option Nat := none
  day : Option Nat := none
  yearDay : Option Nat := none
  hour : Nat := 0
  minute : Nat := 0
  second : Nat := 0
  nanosecond : Nat := 0
  pm : Bool := false
  am : Bool := false
  /-- Whether the zone was written as UTC, by name or as `Z`. -/
  utc : Bool := false
  /-- The zone offset east of UTC in seconds, when a numeric one was read. -/
  offset : Option Int := none
  /-- The zone abbreviation, when one was read. -/
  zoneName : Option String := none
  deriving Repr

namespace Layout

/-- The UTF-8 bytes of a text. -/
def bytesOf (text : String) : List UInt8 := text.toUTF8.toList

/-- The value of an ASCII digit byte. -/
def byteDigit? (b : UInt8) : Option Nat :=
  if 48 ≤ b && b ≤ 57 then some (b.toNat - 48) else none

/-- The value of a decimal digit character. -/
def charDigit? (c : Char) : Option Nat :=
  if c.isDigit then some (c.toNat - '0'.toNat) else none

/-- Whether a byte is an ASCII digit. -/
def isDigitByte (b : UInt8) : Bool := (byteDigit? b).isSome

/-- The text of ASCII bytes, a character for each byte. -/
def asciiText (bytes : List UInt8) : String := String.ofList (bytes.map fun b => Char.ofNat b.toNat)

/-- The byte of the space. -/
def spaceByte : UInt8 := 32

/-- The front of `text` after matching the literal `expected`, byte by byte: a run of spaces in
the layout matches any run of spaces in the text, and requires one when the text goes on with
another byte. On a mismatch, the bytes of the text from where matching stopped. -/
def skipLiteral (expected text : List UInt8) : Except (List UInt8) (List UInt8) :=
  match expected with
  | [] => .ok text
  | e :: rest =>
    if e == spaceByte then
      match text with
      | c :: _ =>
        if c != spaceByte then .error text
        else skipLiteral (rest.dropWhile (· == spaceByte)) (text.dropWhile (· == spaceByte))
      | [] => skipLiteral (rest.dropWhile (· == spaceByte)) []
    else
      match text with
      | c :: moreText => if c == e then skipLiteral rest moreText else .error text
      | [] => .error []
termination_by expected.length
decreasing_by
  all_goals
    simp only [List.length_cons]
    have := (@List.dropWhile_suffix _ rest (· == spaceByte)).length_le
    omega

/-- The value of a run of digit bytes. -/
def wholeOf (digits : List UInt8) : Nat :=
  digits.foldl (fun n b => 10 * n + ((byteDigit? b).getD 0)) 0

/-- One or two leading digits; with `fixed`, exactly two. -/
def twoDigits (value : List UInt8) (fixed : Bool) : Option (Nat × List UInt8) :=
  match value with
  | a :: b :: rest =>
    match byteDigit? a, byteDigit? b with
    | some x, some y => some (10 * x + y, rest)
    | some x, none => if fixed then none else some (x, b :: rest)
    | none, _ => none
  | [a] =>
    match byteDigit? a with
    | some x => if fixed then none else some (x, [])
    | none => none
  | [] => none

/-- One to three leading digits; with `fixed`, exactly three. -/
def threeDigits (value : List UInt8) (fixed : Bool) : Option (Nat × List UInt8) :=
  let digits := (value.take 3).takeWhile isDigitByte
  if digits.isEmpty || (fixed && digits.length != 3) then none
  else some (wholeOf digits, value.drop digits.length)

/-- A whole text read as a signed decimal integer: an optional sign, then digits and nothing
else. An empty run of digits reads as zero. -/
def signedWhole (text : List UInt8) : Option Int :=
  let (negative, digits) := match text with
    | sign :: rest => if sign == 45 then (true, rest) else if sign == 43 then (false, rest)
      else (false, text)
    | [] => (false, [])
  if digits.all isDigitByte then
    let n : Int := wholeOf digits
    some (if negative then -n else n)
  else none

/-- Whether a byte separates seconds from their fraction: a point or a comma. -/
def isFractionMark (b : UInt8) : Bool := b == 46 || b == 44

/-- The nanoseconds of a fraction written as a mark and `width - 1` more bytes, of which only
the first nine digits count. -/
def fractionNanos (value : List UInt8) (width : Nat) : Except String Nat :=
  match value with
  | mark :: _ =>
    if !isFractionMark mark then .error ""
    else
      let width := min width 10
      match signedWhole ((value.take width).drop 1) with
      | none => .error ""
      | some n =>
        if n < 0 then .error "fractional second"
        else .ok (n.toNat * Nat.pow 10 (10 - width))
  | [] => .error ""

/-- Whether two bytes are one ASCII letter, ignoring case. -/
def sameLetter (a b : UInt8) : Bool :=
  a == b || ((a ||| 32) == (b ||| 32) && 97 ≤ (a ||| 32) && (a ||| 32) ≤ 122)

/-- The index of the first name in `names` that the text starts with, ignoring the case of
letters, and the text after it. -/
def lookupName (names : List String) (value : List UInt8) : Option (Nat × List UInt8) :=
  let fits (name : List UInt8) : Bool :=
    name.length ≤ value.length && (List.zipWith sameLetter (value.take name.length) name).all id
  match names.findIdx? (fun name => fits (bytesOf name)) with
  | some index => some (index, value.drop (bytesOf (names.getD index "")).length)
  | none => none

/-- The number at the front of a sequence whose digits `digit?` reads, and what follows it; or
`none` when the number does not fit in 63 bits. -/
def leadingNumber {α : Type} (digit? : α → Option Nat) (text : List α) : Option (Nat × List α) :=
  let digits := text.takeWhile fun c => (digit? c).isSome
  let value := digits.foldl (fun acc c => acc.bind fun n =>
    if n > Nat.pow 2 63 / 10 then none
    else
      let next := n * 10 + (digit? c).getD 0
      if next > Nat.pow 2 63 then none else some next) (some 0)
  value.map fun n => (n, text.drop digits.length)

/-- The length of a signed hour offset at the front of the text, a sign and digits whose value
is at most 23, as `+03` or `-4`; zero when there is none. -/
def signedOffsetLength (value : List UInt8) : Nat :=
  match value with
  | sign :: rest =>
    if sign != 43 && sign != 45 then 0
    else match leadingNumber byteDigit? rest with
      | some (hours, after) =>
        if after.length == rest.length || hours > 23 then 0 else 1 + rest.length - after.length
      | none => 0
  | [] => 0

/-- The length of a zone abbreviation at the front of the text: three upper-case letters, four
ending in `T` (or `WITA`), five ending in `T`, `ChST` or `MeST`, `GMT` with an optional signed
hour offset, or a signed hour offset alone. -/
def zoneNameLength (value : List UInt8) : Option Nat :=
  if value.length < 3 then none
  else if value.take 4 == bytesOf "ChST" || value.take 4 == bytesOf "MeST" then some 4
  else if value.take 3 == bytesOf "GMT" then some (3 + signedOffsetLength (value.drop 3))
  else if value.take 1 == [43] || value.take 1 == [45] then
    match signedOffsetLength value with
    | 0 => none
    | length => some length
  else
    let upper := ((value.take 6).takeWhile fun b => 65 ≤ b && b ≤ 90).length
    match upper with
    | 3 => some 3
    | 4 => if value.getD 3 0 == 84 || value.take 4 == bytesOf "WITA" then some 4 else none
    | 5 => if value.getD 4 0 == 84 then some 5 else none
    | _ => none

/-- Two digits, as a byte pair. -/
def twoDigitBytes (pair : List UInt8) : Option Nat :=
  match pair with
  | a :: b :: _ =>
    match byteDigit? a, byteDigit? b with
    | some x, some y => some (x * 10 + y)
    | _, _ => none
  | _ => none

/-- Reads a numeric zone offset: sign, hours and, as the element asks, minutes and seconds,
with or without colons. The parts are read in order until one is not two digits; a part out of
range is reported before any other fault, the last such part first. -/
def zoneOffset (colon withMinutes withSeconds : Bool) (value : List UInt8) :
    Except String (Int × List UInt8) :=
  let width := if colon then (if withSeconds then 9 else if withMinutes then 6 else 3)
    else (if withSeconds then 7 else if withMinutes then 5 else 3)
  if value.length < width then .error ""
  else if colon && withMinutes && value.getD 3 0 != 58 then .error ""
  else if colon && withSeconds && value.getD 6 0 != 58 then .error ""
  else
    let sign := value.getD 0 0
    let pick (start : Nat) : List UInt8 := (value.drop start).take 2
    let hourRead := twoDigitBytes (pick 1)
    let minuteRead := if !withMinutes then hourRead.map fun _ => 0
      else hourRead.bind fun _ => twoDigitBytes (pick (if colon then 4 else 3))
    let secondRead := if !withSeconds then minuteRead.map fun _ => 0
      else minuteRead.bind fun _ => twoDigitBytes (pick (if colon then 7 else 5))
    let h := hourRead.getD 0
    let m := minuteRead.getD 0
    let s := secondRead.getD 0
    if s > 60 then .error "time zone offset second"
    else if m > 60 then .error "time zone offset minute"
    else if h > 24 then .error "time zone offset hour"
    else if secondRead.isNone then .error ""
    else
      let offset : Int := ((h * 60 + m) * 60 + s : Nat)
      if sign == 43 then .ok (offset, value.drop width)
      else if sign == 45 then .ok (-offset, value.drop width)
      else .error ""

/-- The text after at most `count` leading spaces. -/
def dropSpaces : Nat → List UInt8 → List UInt8
  | count + 1, b :: rest => if b == spaceByte then dropSpaces count rest else b :: rest
  | _, value => value

/-- Reads one element from the front of the text. The error is `""` when the text does not fit
the element and otherwise names the field that is out of range. `fractionNext` tells whether the
layout has a fraction element after this one, which decides whether a fraction after the
seconds is read here. -/
def readElement (kind : LayoutElement) (fractionNext : Bool) (fields : ParsedFields)
    (value : List UInt8) : Except String (ParsedFields × List UInt8) :=
  let bad : Except String (ParsedFields × List UInt8) := .error ""
  match kind with
  | .year =>
    if value.length < 2 then bad
    else match signedWhole (value.take 2) with
      | some y => .ok ({ fields with year := if y ≥ 69 then y + 1900 else y + 2000 }, value.drop 2)
      | none => bad
  | .longYear =>
    if value.length < 4 || !isDigitByte (value.getD 0 0) then bad
    else match signedWhole (value.take 4) with
      | some y => .ok ({ fields with year := y }, value.drop 4)
      | none => bad
  | .month | .longMonth =>
    let names := if kind == .month then monthNames.map (fun n => String.ofList (n.toList.take 3))
      else monthNames
    match lookupName names value with
    | some (index, rest) => .ok ({ fields with month := some (index + 1) }, rest)
    | none => bad
  | .numMonth | .zeroMonth =>
    match twoDigits value (kind == .zeroMonth) with
    | some (m, rest) =>
      if m == 0 || 12 < m then .error "month" else .ok ({ fields with month := some m }, rest)
    | none => bad
  | .weekDay | .longWeekDay =>
    let names := if kind == .weekDay then dayNames.map (fun n => String.ofList (n.toList.take 3))
      else dayNames
    match lookupName names value with
    | some (_, rest) => .ok (fields, rest)
    | none => bad
  | .day | .underDay | .zeroDay =>
    let value := if kind == .underDay then dropSpaces 1 value else value
    match twoDigits value (kind == .zeroDay) with
    | some (d, rest) => .ok ({ fields with day := some d }, rest)
    | none => bad
  | .underYearDay | .zeroYearDay =>
    let value := if kind == .underYearDay then dropSpaces 2 value else value
    match threeDigits value (kind == .zeroYearDay) with
    | some (d, rest) => .ok ({ fields with yearDay := some d }, rest)
    | none => bad
  | .hour =>
    match twoDigits value false with
    | some (h, rest) => if 24 ≤ h then .error "hour" else .ok ({ fields with hour := h }, rest)
    | none => bad
  | .hour12 | .zeroHour12 =>
    match twoDigits value (kind == .zeroHour12) with
    | some (h, rest) => if 12 < h then .error "hour" else .ok ({ fields with hour := h }, rest)
    | none => bad
  | .minute | .zeroMinute =>
    match twoDigits value (kind == .zeroMinute) with
    | some (m, rest) => if 60 ≤ m then .error "minute" else .ok ({ fields with minute := m }, rest)
    | none => bad
  | .second | .zeroSecond =>
    match twoDigits value (kind == .zeroSecond) with
    | some (s, rest) =>
      if 60 ≤ s then .error "second"
      else
        let fields := { fields with second := s }
        match rest with
        | mark :: digit :: _ =>
          if isFractionMark mark && isDigitByte digit && !fractionNext then
            let width := 1 + ((rest.drop 1).takeWhile isDigitByte).length
            match fractionNanos rest width with
            | .ok nanos => .ok ({ fields with nanosecond := nanos }, rest.drop width)
            | .error e => .error e
          else .ok (fields, rest)
        | _ => .ok (fields, rest)
    | none => bad
  | .pmUpper | .pmLower =>
    if value.length < 2 then bad
    else
      let word := value.take 2
      let (pmWord, amWord) := if kind == .pmUpper then ("PM", "AM") else ("pm", "am")
      if word == bytesOf pmWord then .ok ({ fields with pm := true }, value.drop 2)
      else if word == bytesOf amWord then .ok ({ fields with am := true }, value.drop 2)
      else bad
  | .isoZone | .isoZoneShort | .isoZoneColon | .isoZoneSeconds | .isoZoneColonSeconds
  | .numZone | .numZoneShort | .numZoneColon | .numZoneSeconds | .numZoneColonSeconds =>
    let iso := kind == .isoZone || kind == .isoZoneShort || kind == .isoZoneColon ||
      kind == .isoZoneSeconds || kind == .isoZoneColonSeconds
    match value with
    | b :: rest =>
      if iso && b == 90 then .ok ({ fields with utc := true }, rest)
      else readOffset kind fields value
    | [] => readOffset kind fields value
  | .zoneName =>
    if value.take 3 == bytesOf "UTC" then .ok ({ fields with utc := true }, value.drop 3)
    else match zoneNameLength value with
      | some length =>
        .ok ({ fields with zoneName := some (asciiText (value.take length)) }, value.drop length)
      | none => bad
  | .fractionFixed digits _ =>
    if value.length < digits + 1 then bad
    else match fractionNanos value (digits + 1) with
      | .ok nanos => .ok ({ fields with nanosecond := nanos }, value.drop (digits + 1))
      | .error e => .error e
  | .fractionTrimmed _ _ =>
    match value with
    | mark :: digit :: _ =>
      if isFractionMark mark && isDigitByte digit then
        let width := 1 + ((value.drop 1).takeWhile isDigitByte).length
        match fractionNanos value width with
        | .ok nanos => .ok ({ fields with nanosecond := nanos }, value.drop width)
        | .error e => .error e
      else .ok (fields, value)
    | _ => .ok (fields, value)
where
  /-- Reads a numeric offset in the shape the element names. -/
  readOffset (kind : LayoutElement) (fields : ParsedFields) (value : List UInt8) :
      Except String (ParsedFields × List UInt8) :=
    let (colon, withMinutes, withSeconds) : Bool × Bool × Bool := match kind with
      | .isoZoneColon | .numZoneColon => (true, true, false)
      | .isoZoneShort | .numZoneShort => (false, false, false)
      | .isoZoneColonSeconds | .numZoneColonSeconds => (true, true, true)
      | .isoZoneSeconds | .numZoneSeconds => (false, true, true)
      | _ => (false, true, false)
    match zoneOffset colon withMinutes withSeconds value with
    | .ok (offset, rest) => .ok ({ fields with offset := some offset }, rest)
    | .error e => .error e

/-- Whether a fraction element comes next among the chunks. -/
def fractionAhead : List LayoutChunk → Bool
  | .literal _ :: rest => fractionAhead rest
  | .element (.fractionFixed _ _) _ :: _ => true
  | .element (.fractionTrimmed _ _) _ :: _ => true
  | _ => false

/-- Reads the text against the chunks, collecting fields. `layout` and `text` are the whole
layout and text, for error messages. -/
def readChunks (layout : String) (text : List UInt8) : List LayoutChunk → ParsedFields →
    List UInt8 → Except TimeParseError ParsedFields
  | [], fields, value =>
    if value.isEmpty then .ok fields else .error (.extraText text value)
  | .literal expected :: rest, fields, value =>
    match skipLiteral (bytesOf expected) value with
    | .ok value => readChunks layout text rest fields value
    | .error at_ => .error (.mismatch layout text expected at_)
  | .element kind written :: rest, fields, value =>
    match readElement kind (fractionAhead rest) fields value with
    | .ok (fields, value) => readChunks layout text rest fields value
    | .error "" => .error (.mismatch layout text written value)
    | .error field => .error (.outOfRange text field)

/-- The offset of a zone known only by its abbreviation: `GMT` with a signed hour offset has
that offset; any other name is taken as UTC, the zone its wall clock is read in. -/
def namedZoneOffset (name : String) : Int :=
  match name.toList with
  | 'G' :: 'M' :: 'T' :: sign :: digits =>
    let hours : Int := ((leadingNumber charDigit? digits).map (·.1)).getD 0
    (if sign == '-' then -hours else hours) * 3600
  | _ => 0

/-- The time a wall clock reading stands for, in the zone the fields name. A zone written as
UTC wins over everything else. A numeric offset moves the wall clock to UTC; an offset of
exactly one second west cannot be told from no offset at all, since that value marks a missing
one. A zone known only by name leaves the wall clock as the instant, with the name's offset. -/
def placeInZone (fields : ParsedFields) (wallClock : Instant) : ZonedTime :=
  if fields.utc then ⟨wallClock, 0⟩
  else match fields.offset with
    | some offset =>
      if offset != -1 then ⟨⟨wallClock.nanos - offset * nanosPerSecond⟩, offset⟩
      else byName
    | none => byName
where
  /-- The zone of the name alone. -/
  byName : ZonedTime := ⟨wallClock, (fields.zoneName.map namedZoneOffset).getD 0⟩

/-- Days before the first of each month in a common year, January first. -/
def daysBeforeMonth : List Nat := [0, 31, 59, 90, 120, 151, 181, 212, 243, 273, 304, 334, 365]

/-- The month and day of a day of the year, if it lies in the year. -/
def ofYearDay (year : Int) (yearDay : Nat) : Option (Nat × Nat) :=
  if isLeapYear year && yearDay == 60 then some (2, 29)
  else
    let yearDay := if isLeapYear year && yearDay > 60 then yearDay - 1 else yearDay
    if yearDay < 1 || yearDay > 365 then none
    else
      let month := (List.range 12).find? (fun m => yearDay ≤ daysBeforeMonth.getD (m + 1) 0)
      match month with
      | some m => some (m + 1, yearDay - daysBeforeMonth.getD m 0)
      | none => none

end Layout

namespace Instant

/-- Reads a time written with a layout from the bytes of a text, keeping the zone offset it was
written in. Missing fields default to year 0, January, the first, midnight, UTC. -/
def readZoned (layout : String) (text : List UInt8) : Except TimeParseError ZonedTime := do
  let fields ← Layout.readChunks layout text (Layout.chunks layout) {} text
  let hour := if fields.pm && fields.hour < 12 then fields.hour + 12
    else if fields.am && fields.hour == 12 then 0 else fields.hour
  let (month, day) ← match fields.yearDay with
    | some yearDay =>
      match Layout.ofYearDay fields.year yearDay with
      | some (m, d) =>
        if fields.month.isSome && fields.month != some m then
          .error (.yearDayMismatch text "month")
        else if fields.day.isSome && fields.day != some d then
          .error (.yearDayMismatch text "day")
        else pure (m, d)
      | none => .error (.outOfRange text "day-of-year")
    | none => pure (fields.month.getD 1, fields.day.getD 1)
  if day < 1 || day > daysInMonth fields.year month then .error (.dayOutOfRange text)
  else
    let wallClock := ofCivil (CivilTime.mk fields.year month day hour fields.minute fields.second
      fields.nanosecond)
    pure (Layout.placeInZone fields wallClock)

/-- Reads a time written with a layout from the bytes of a text, as an instant: a zone in the
text moves it to UTC. -/
def read (layout : String) (text : List UInt8) : Except TimeParseError Instant :=
  (readZoned layout text).map (·.instant)

/-- Reads a time written with a layout, keeping the zone offset it was written in. -/
def parseZoned (layout text : String) : Except TimeParseError ZonedTime :=
  readZoned layout (Layout.bytesOf text)

/-- Reads a time written with a layout, as an instant: a zone in the text moves it to UTC. -/
def parse (layout text : String) : Except TimeParseError Instant :=
  read layout (Layout.bytesOf text)

/-- Reads an RFC 3339 time, with or without fractional seconds. -/
def parseRfc3339 (text : String) : Except TimeParseError Instant := parse rfc3339Nano text

/-- Reads an RFC 3339 time, keeping its zone offset. -/
def parseRfc3339Zoned (text : String) : Except TimeParseError ZonedTime :=
  parseZoned rfc3339Nano text

end Instant

end Bourse
