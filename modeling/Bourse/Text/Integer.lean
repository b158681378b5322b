import Bourse.Text.Quote

/-!
# Reading integers

An integer is written as an optional sign and at least one digit, in decimal or in a base that
a prefix chooses. Reading walks the digits in order: a character that is not a digit makes the
text malformed, and a value that no longer fits in the unsigned width makes it out of range,
whichever comes first. A value that fits in the unsigned width but not in the signed range is
out of range too.

An out-of-range text still has a value, the nearest end of the range; a malformed one has
zero. Readers that ignore the error use that value.
-/

namespace Bourse

/-- Why a text is not a 64-bit integer. -/
inductive IntegerError where
  /-- The text is not a sign and digits. -/
  | malformed (text : String)
  /-- The value lies outside the range; `nearest` is the end of the range beside it. -/
  | range (text : String) (nearest : Int64)
  deriving Repr, DecidableEq

/-- The message of an integer error. -/
def IntegerError.message : IntegerError → String
  | .malformed text => "strconv.ParseInt: parsing " ++ quoteText text ++ ": invalid syntax"
  | .range text _ => "strconv.ParseInt: parsing " ++ quoteText text ++ ": value out of range"

/-- The message of an integer error met while reading a whole number of the machine's width. -/
def IntegerError.wholeMessage : IntegerError → String
  | .malformed text => "strconv.Atoi: parsing " ++ quoteText text ++ ": invalid syntax"
  | .range text _ => "strconv.Atoi: parsing " ++ quoteText text ++ ": value out of range"

/-- The value a reader that ignores the error gets. -/
def IntegerError.fallback : IntegerError → Int64
  | .malformed _ => 0
  | .range _ nearest => nearest

/-- How reading the digits ended. -/
inductive DigitsEnd where
  /-- All digits read, with their value. -/
  | value (n : Nat)
  /-- A character that is not a digit. -/
  | malformed
  /-- The value passed 64 unsigned bits. -/
  | overflow
  deriving Repr, DecidableEq

/-- The value of a digit in bases up to 36: `0`–`9`, then letters of either case. -/
def digitValue (c : Char) : Option Nat :=
  if '0' ≤ c && c ≤ '9' then some (c.toNat - '0'.toNat)
  else if 'a' ≤ c && c ≤ 'z' then some (c.toNat - 'a'.toNat + 10)
  else if 'A' ≤ c && c ≤ 'Z' then some (c.toNat - 'A'.toNat + 10)
  else none

/-- Reads digits of `base` onto `acc`, stopping at the first character that is not a digit of
the base or at the first digit that takes the value past `limit`. -/
def readDigitsIn (base limit acc : Nat) : List Char → DigitsEnd
  | [] => .value acc
  | c :: rest =>
    match digitValue c with
    | some d =>
      if d < base then
        let next := base * acc + d
        if next > limit then .overflow else readDigitsIn base limit next rest
      else .malformed
    | none => .malformed

/-- The base of an integer text and its digits. A text read with its base chosen by a prefix
is binary after `0b`, octal after `0o` or a lone leading `0`, hexadecimal after `0x` (either
case), and decimal otherwise; a prefix counts only when a digit could follow it. -/
def splitBase (prefixed : Bool) (text : List Char) : Nat × List Char :=
  if !prefixed then (10, text)
  else match text with
    | '0' :: marker :: rest =>
      if rest.isEmpty then (8, marker :: rest)
      else if marker == 'b' || marker == 'B' then (2, rest)
      else if marker == 'o' || marker == 'O' then (8, rest)
      else if marker == 'x' || marker == 'X' then (16, rest)
      else (8, marker :: rest)
    | ['0'] => (8, [])
    | other => (10, other)

/-- Reads an unsigned integer of `bits` bits, in decimal or with its base chosen by a prefix. -/
def readUnsigned (prefixed : Bool) (bits : Nat) (text : String) : Option Nat :=
  if text.isEmpty then none
  else
    let (base, digits) := splitBase prefixed text.toList
    match readDigitsIn base (Nat.pow 2 bits - 1) 0 digits with
    | .value n => some n
    | _ => none

/-- Whether an integer text starts with a minus sign, and the text after its sign. -/
def splitSign : List Char → Bool × List Char
  | '+' :: rest => (false, rest)
  | '-' :: rest => (true, rest)
  | all => (false, all)

/-- Reads a signed integer of `bits` bits (at most 64), in decimal or with its base chosen by a
prefix after the sign. -/
def readSigned (prefixed : Bool) (bits : Nat) (text : String) : Except IntegerError Int :=
  let (negative, rest) := splitSign text.toList
  let half : Nat := Nat.pow 2 (bits - 1)
  let nearest : Int64 := if negative then Int64.ofInt (-(half : Int)) else Int64.ofNat (half - 1)
  if rest.isEmpty then .error (.malformed text)
  else
    let (base, digits) := splitBase prefixed rest
    match readDigitsIn base (Nat.pow 2 bits - 1) 0 digits with
    | .malformed => .error (.malformed text)
    | .overflow => .error (.range text nearest)
    | .value n =>
      if negative then
        if n > half then .error (.range text nearest) else .ok (-(n : Int))
      else if n ≥ half then .error (.range text nearest) else .ok n

/-- Reads a signed 64-bit integer written in `base`, after an optional sign. -/
def readSignedIn (base : Nat) (text : List Char) : Option Int :=
  let (negative, digits) := splitSign text
  if digits.isEmpty then none
  else match readDigitsIn base (Nat.pow 2 64 - 1) 0 digits with
    | .value n =>
      if negative then (if n > Nat.pow 2 63 then none else some (-(n : Int)))
      else if n ≥ Nat.pow 2 63 then none else some n
    | _ => none

/-- Reads a 64-bit integer from its decimal text. -/
def readInt64 (text : String) : Except IntegerError Int64 :=
  (readSigned false 64 text).map Int64.ofInt

end Bourse
