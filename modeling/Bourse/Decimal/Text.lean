import Bourse.Decimal.Division

/-!
# Reading and writing decimals

The written form of a decimal is positional with no exponent: an optional `-`, the integer
digits, and the fractional digits after a point with trailing zeros removed (`toText`), or kept
to a fixed count (`toFixed`). Zero is written without a sign.

Reading (`ofText?`) accepts an optional sign, digits with at most one point, and an optional
exponent after `e` or `E`. The coefficient may have any number of digits; the exponent must fit
in 32 bits. A text that breaks one of these rules is refused with the reason.
-/

namespace Bourse

namespace Decimal

/-- Why a text is not a decimal. Each reason carries the text it was found in. -/
inductive SyntaxError where
  /-- What follows the exponent mark is not a signed integer. -/
  | exponentNotNumeric (text : String)
  /-- The exponent does not fit in 32 bits. -/
  | exponentTooLarge (text : String)
  /-- The mantissa has two or more points. -/
  | tooManyPoints (text : String)
  /-- The mantissa is not a signed run of digits. -/
  | notNumeric (text : String)
  deriving Repr, DecidableEq

/-- The message that reports the reason. -/
def SyntaxError.message : SyntaxError → String
  | .exponentNotNumeric text => "can't convert " ++ text ++ " to decimal: exponent is not numeric"
  | .exponentTooLarge text => "can't convert " ++ text ++ " to decimal: fractional part too long"
  | .tooManyPoints text => "can't convert " ++ text ++ " to decimal: too many .s"
  | .notNumeric text => "can't convert " ++ text ++ " to decimal"

/-- The value of a run of decimal digits; `none` when the run is empty or holds another
character. -/
def digitsValue? (digits : List Char) : Option Nat :=
  if digits.isEmpty then none
  else digits.foldl (fun acc c => acc.bind fun n =>
    if c.isDigit then some (10 * n + (c.toNat - '0'.toNat)) else none) (some 0)

/-- A signed integer written as an optional `+` or `-` followed by at least one digit. -/
def signedValue? (text : List Char) : Option Int :=
  match text with
  | '-' :: digits => (digitsValue? digits).map fun n => -(n : Int)
  | '+' :: digits => (digitsValue? digits).map fun n => (n : Int)
  | digits => (digitsValue? digits).map fun n => (n : Int)

/-- The exponents a decimal may be written with: those that fit in 32 bits. -/
def exponentFits (exponent : Int) : Bool := -2147483648 ≤ exponent && exponent ≤ 2147483647

/-- Reads the mantissa part (the text before any exponent mark) into its digits and the
exponent its point implies. -/
def readMantissa (mantissa : String) : Except SyntaxError Decimal :=
  let chars := mantissa.toList
  match chars.splitOn '.' with
  | [whole] =>
    match signedValue? whole with
    | some n => .ok ⟨n, 0⟩
    | none => .error (.notNumeric mantissa)
  | [whole, fraction] =>
    match signedValue? (whole ++ fraction) with
    | some n => .ok ⟨n, -(fraction.length : Int)⟩
    | none => .error (.notNumeric mantissa)
  | _ => .error (.tooManyPoints mantissa)

/-- Reads a decimal from its text, or says why the text is not one. -/
def ofText? (text : String) : Except SyntaxError Decimal :=
  let chars := text.toList
  match chars.findIdx? (fun c => c == 'e' || c == 'E') with
  | none => readMantissa text
  | some markAt =>
    let mantissa := String.ofList (chars.take markAt)
    match signedValue? (chars.drop (markAt + 1)) with
    | none => .error (.exponentNotNumeric text)
    | some shift =>
      if exponentFits shift then
        match readMantissa mantissa with
        | .ok value =>
          if exponentFits (value.exponent + shift) then .ok ⟨value.coefficient, value.exponent + shift⟩
          else .error (.exponentTooLarge text)
        | .error e => .error e
      else .error (.exponentTooLarge text)

/-- The decimal digits of a natural number, most significant first. -/
def natDigits (n : Nat) : List Char := (Nat.toDigits 10 n)

/-- The digits of the magnitude split at the point for an exponent `-places`: the integer
digits (at least `0`) and exactly `places` fractional digits. -/
def splitAtPoint (magnitude places : Nat) : List Char × List Char :=
  let digits := natDigits magnitude
  if places < digits.length then
    (digits.take (digits.length - places), digits.drop (digits.length - places))
  else
    (['0'], List.replicate (places - digits.length) '0' ++ digits)

/-- The positional text of a decimal whose fractional digits are kept or trimmed. -/
def positional (amount : Decimal) (trimZeros : Bool) : String :=
  if 0 ≤ amount.exponent then
    let whole := amount.coefficient * Int.pow 10 amount.exponent.toNat
    (if whole < 0 then "-" else "") ++ String.ofList (natDigits whole.natAbs)
  else
    let (whole, fraction) := splitAtPoint amount.coefficient.natAbs (-amount.exponent).toNat
    let fraction := if trimZeros then (fraction.reverse.dropWhile (· == '0')).reverse else fraction
    let body := String.ofList whole ++ (if fraction.isEmpty then "" else "." ++ String.ofList fraction)
    (if amount.coefficient < 0 then "-" else "") ++ body

/-- The shortest positional text: no exponent, no trailing fractional zeros, no sign on zero. -/
def toText (amount : Decimal) : String := positional amount true

/-- The text rounded to `places` fractional digits (halves away from zero), all of them
written. -/
def toFixed (amount : Decimal) (places : Nat) : String := positional (amount.round places) false

end Decimal

end Bourse
