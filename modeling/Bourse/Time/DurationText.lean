import Bourse.Time.Layout

/-!
# Durations in writing

A duration is written as hours, minutes and seconds, `1h30m0s`, dropping leading units that
are zero, with the seconds carrying a decimal fraction without trailing zeros (`1.5s`). Spans
under one second use the largest unit among `ms`, `µs` and `ns` that is not more than the span
(`100ms`, `1.5µs`); zero is `0s`. A negative span starts with `-`.

Reading accepts a sign and then one or more decimal numbers each followed by a unit among
`ns`, `us`, `µs`, `μs`, `ms`, `s`, `m`, `h` (`1h30m`, `1.5s`, `-2m`), and the lone `0`. The
total must fit in a signed 64-bit count of nanoseconds.
-/

namespace Bourse

namespace Duration

/-- The digits of `value / 10 ^ places` after the point, trailing zeros dropped, with the point
when any remain, and the integer part. -/
def splitFraction (value places : Nat) : String × Nat :=
  let fraction := value % Nat.pow 10 places
  let digits := (padNat fraction places).toList
  let kept := (digits.reverse.dropWhile (· == '0')).reverse
  ((if kept.isEmpty then "" else String.ofList ('.' :: kept)), value / Nat.pow 10 places)

/-- The duration in writing, as described in the module header. -/
def toText (span : Duration) : String :=
  let magnitude := span.nanos.natAbs
  let body :=
    if magnitude == 0 then "0s"
    else if magnitude < 1000000000 then
      let (places, unit) :=
        if magnitude < 1000 then (0, "ns")
        else if magnitude < 1000000 then (3, "µs")
        else (6, "ms")
      let (fraction, whole) := splitFraction magnitude places
      toString whole ++ fraction ++ unit
    else
      let (fraction, wholeSeconds) := splitFraction magnitude 9
      let seconds := toString (wholeSeconds % 60) ++ fraction ++ "s"
      let minutes := wholeSeconds / 60
      if minutes == 0 then seconds
      else
        let withMinutes := toString (minutes % 60) ++ "m" ++ seconds
        let hours := minutes / 60
        if hours == 0 then withMinutes else toString hours ++ "h" ++ withMinutes
  (if span.nanos < 0 then "-" else "") ++ body

/-- Why a text is not a duration. -/
inductive SyntaxError where
  /-- The text breaks the grammar or the total does not fit. -/
  | invalid (text : String)
  /-- A number has no unit after it. -/
  | missingUnit (text : String)
  /-- A unit is not one of the known ones. -/
  | unknownUnit (unit text : String)
  deriving Repr, DecidableEq

/-- The message that reports the reason, quoting the text. -/
def SyntaxError.message : SyntaxError → String
  | .invalid text => "time: invalid duration " ++ quoteTimeText text
  | .missingUnit text => "time: missing unit in duration " ++ quoteTimeText text
  | .unknownUnit unit text =>
    "time: unknown unit " ++ quoteTimeText unit ++ " in duration " ++ quoteTimeText text

/-- Nanoseconds in each unit a duration may be written in. -/
def unitNanos (unit : String) : Option Nat :=
  match unit with
  | "ns" => some 1
  | "us" => some 1000
  | "µs" => some 1000
  | "μs" => some 1000
  | "ms" => some 1000000
  | "s" => some 1000000000
  | "m" => some 60000000000
  | "h" => some 3600000000000
  | _ => none

/-- The largest magnitude a duration may have. -/
def limit : Nat := Nat.pow 2 63

/-- The digits at the front of a fraction: their value while it fits below the limit, ten to
the power of the digits counted in it (as a float), and the text after all the digits. Digits
after the value would overflow are skipped; they only lose precision. -/
def leadingFraction (text : List Char) : Nat × Float × List Char :=
  let digits := text.takeWhile Char.isDigit
  let (value, scale, _) := digits.foldl (fun (acc : Nat × Float × Bool) c =>
    let (x, scale, overflow) := acc
    if overflow then acc
    else if x > (limit - 1) / 10 then (x, scale, true)
    else
      let y := x * 10 + (c.toNat - '0'.toNat)
      if y > limit then (x, scale, true) else (y, scale * 10, false)) (0, 1, false)
  (value, scale, text.drop digits.length)

/-- The nanoseconds of a fraction `digits / scale` of a unit, computed in floating point as
`digits * (unit / scale)` and truncated; floating point is exact enough to the nanosecond for
fractions of an hour. -/
def fractionNanos (digits : Nat) (scale : Float) (unit : Nat) : Nat :=
  (Float.ofNat digits * (Float.ofNat unit / scale)).toUInt64.toNat

/-- Reads the terms `number unit` that follow the sign, adding their nanoseconds to `total`.
A whole part too large for 63 bits makes the text invalid before its unit is looked at.
Each term takes at least one character, so `fuel` at the length of the text is enough. -/
def readTerms (text : String) (total : Nat) : Nat → List Char → Except SyntaxError Nat
  | _, [] => .ok total
  | 0, _ :: _ => .error (.invalid text)
  | fuel + 1, rest@(first :: _) =>
    if !(first == '.' || first.isDigit) then .error (.invalid text)
    else match Layout.leadingNumber Layout.charDigit? rest with
      | none => .error (.invalid text)
      | some (whole, afterWhole) =>
        let (fraction, scale, afterNumber, post) : Nat × Float × List Char × Bool :=
          match afterWhole with
          | '.' :: more =>
            let (fraction, scale, after) := leadingFraction more
            (fraction, scale, after, after.length != more.length)
          | _ => (0, 1, afterWhole, false)
        if afterWhole.length == rest.length && !post then .error (.invalid text)
        else
          let unit := afterNumber.takeWhile fun c => !(c == '.' || c.isDigit)
          if unit.isEmpty then .error (.missingUnit text)
          else match unitNanos (String.ofList unit) with
            | none => .error (.unknownUnit (String.ofList unit) text)
            | some scaleNanos =>
              let term := whole * scaleNanos +
                (if fraction > 0 then fractionNanos fraction scale scaleNanos else 0)
              if whole > limit / scaleNanos || term > limit || total + term > limit then
                .error (.invalid text)
              else readTerms text (total + term) fuel (afterNumber.drop unit.length)

/-- Reads a duration, or says why the text is not one. -/
def ofText? (text : String) : Except SyntaxError Duration :=
  let chars := text.toList
  let (negative, body) := match chars with
    | '-' :: rest => (true, rest)
    | '+' :: rest => (false, rest)
    | rest => (false, rest)
  if body == ['0'] then .ok ⟨0⟩
  else if body.isEmpty then .error (.invalid text)
  else
    match readTerms text 0 body.length body with
    | .error e => .error e
    | .ok total =>
      if negative then .ok ⟨-(total : Int)⟩
      else if total > limit - 1 then .error (.invalid text)
      else .ok ⟨total⟩

end Duration

end Bourse
