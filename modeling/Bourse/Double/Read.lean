import Bourse.Text.Quote
import Bourse.Text.Integer

/-!
# Reading doubles

A double is read from an optional sign and a decimal or hexadecimal literal, or from the words
`inf`, `infinity` (with an optional sign) and `nan`, in any case. A decimal literal has digits
with at most one point and an optional exponent after `e`; a hexadecimal literal starts with
`0x`, has hexadecimal digits with at most one point and needs a binary exponent after `p`.
Underscores may stand between digits, and between the prefix and a digit. The whole text must be
the literal.

The value is the literal's exact value rounded to the nearest double, halves to even. A value
too large for a double is out of range; one too small becomes zero.
-/

namespace Bourse

/-- Why a text is not a double. -/
inductive FloatError where
  /-- The text is not a literal. -/
  | malformed (text : String)
  /-- The literal's value is too large for a double. -/
  | range (text : String)
  deriving Repr, DecidableEq

/-- The message of a float error. -/
def FloatError.message : FloatError → String
  | .malformed text => "strconv.ParseFloat: parsing " ++ quoteText text ++ ": invalid syntax"
  | .range text => "strconv.ParseFloat: parsing " ++ quoteText text ++ ": value out of range"

namespace FloatText

/-- The parts of a literal. -/
structure Literal where
  /-- Whether a minus sign came first. -/
  negative : Bool
  /-- The base of the digits, ten or sixteen. -/
  base : Nat
  /-- The value of all digits, the point ignored. -/
  digits : Nat
  /-- How many digits follow the point. -/
  fraction : Nat
  /-- Whether any digit was seen. -/
  sawDigits : Bool
  /-- The written exponent. -/
  exponent : Int
  /-- Whether underscores were seen. -/
  underscores : Bool
  deriving Repr

/-- Reads the digits of the mantissa in `base`, with at most one point and underscores. -/
def mantissa (lit : Literal) (sawPoint : Bool) : List Char → Literal × List Char
  | [] => (lit, [])
  | c :: rest =>
    if c == '_' then mantissa { lit with underscores := true } sawPoint rest
    else if c == '.' then
      if sawPoint then (lit, c :: rest) else mantissa lit true rest
    else match digitValue c with
      | some d =>
        if d < lit.base then
          mantissa { lit with digits := lit.base * lit.digits + d, sawDigits := true,
                              fraction := if sawPoint then lit.fraction + 1 else lit.fraction }
            sawPoint rest
        else (lit, c :: rest)
      | none => (lit, c :: rest)

/-- Reads the digits of an exponent with underscores; the value stops growing once it reaches
ten thousand, which is beyond every double. -/
def exponentDigits (value : Nat) (underscores : Bool) : List Char → Nat × Bool × List Char
  | [] => (value, underscores, [])
  | c :: rest =>
    if c == '_' then exponentDigits value true rest
    else if c.isDigit then
      exponentDigits (if value < 10000 then 10 * value + (c.toNat - '0'.toNat) else value)
        underscores rest
    else (value, underscores, c :: rest)

/-- Reads an exponent after its mark: a sign and at least one digit. -/
def exponentPart (lit : Literal) (chars : List Char) : Option (Literal × List Char) :=
  let (negative, chars) := match chars with
    | '+' :: rest => (false, rest)
    | '-' :: rest => (true, rest)
    | other => (false, other)
  match chars with
  | c :: _ =>
    if c.isDigit then
      let (value, underscores, rest) := exponentDigits 0 lit.underscores chars
      some ({ lit with exponent := if negative then -(value : Int) else value, underscores }, rest)
    else none
  | [] => none

/-- What the last character seen was, for checking underscores. -/
inductive Seen where
  | start
  | digit
  | underscore
  | other
  deriving DecidableEq

/-- Whether underscores stand only between digits (or after a base prefix). -/
def underscoresFit (hex : Bool) (seen : Seen) : List Char → Bool
  | [] => seen != .underscore
  | c :: rest =>
    if c.isDigit || (hex && (digitValue c).any (· < 16)) then underscoresFit hex .digit rest
    else if c == '_' then seen == .digit && underscoresFit hex .underscore rest
    else seen != .underscore && underscoresFit hex .other rest

/-- Whether underscores in a literal are placed well. -/
def underscoresPlaced (chars : List Char) : Bool :=
  let unsigned := match chars with
    | '+' :: rest | '-' :: rest => rest
    | other => other
  match unsigned with
  | '0' :: x :: rest =>
    if x == 'x' || x == 'X' || x == 'b' || x == 'B' || x == 'o' || x == 'O' then
      underscoresFit (x == 'x' || x == 'X') .digit rest
    else underscoresFit false .start unsigned
  | _ => underscoresFit false .start unsigned

/-- Reads the parts of a literal that makes up the whole text. -/
def literal (chars : List Char) : Option Literal :=
  let (negative, body) := match chars with
    | '+' :: rest => (false, rest)
    | '-' :: rest => (true, rest)
    | other => (false, other)
  let (hex, body) := match body with
    | '0' :: x :: rest@(_ :: _) => if x == 'x' || x == 'X' then (true, rest) else (false, body)
    | _ => (false, body)
  let start : Literal := ⟨negative, if hex then 16 else 10, 0, 0, false, 0, false⟩
  let (lit, rest) := mantissa start false body
  if !lit.sawDigits then none
  else
    let withExponent := match rest with
      | c :: more =>
        if (hex && (c == 'p' || c == 'P')) || (!hex && (c == 'e' || c == 'E')) then
          exponentPart lit more
        else if hex then none
        else some (lit, rest)
      | [] => if hex then none else some (lit, [])
    match withExponent with
    | some (lit, []) => if lit.underscores && !underscoresPlaced chars then none else some lit
    | _ => none

/-- The double nearest to `digits * 2 ^ twos * 10 ^ tens`, halves to even. -/
def nearest (digits : Nat) (twos tens : Int) : Float :=
  let scaled := digits * Nat.pow 2 twos.toNat * Nat.pow 10 tens.toNat
  let fives := (-twos).toNat
  -- dividing by 2 ^ fives is multiplying by 5 ^ fives and dividing by 10 ^ fives
  Float.ofScientific (scaled * Nat.pow 5 fives) true ((-tens).toNat + fives)

/-- The value of a literal. -/
def Literal.value (lit : Literal) : Float :=
  let magnitude := if lit.base == 16 then nearest lit.digits (lit.exponent - 4 * lit.fraction) 0
    else nearest lit.digits 0 (lit.exponent - lit.fraction)
  if lit.negative then -magnitude else magnitude

/-- Whether `chars` is `word` in any case. -/
def isWord (word : String) (chars : List Char) : Bool :=
  chars.map Char.toLower == word.toList

/-- The value of a text that names infinity or not-a-number. -/
def special (chars : List Char) : Option Float :=
  let (sign, body) := match chars with
    | '+' :: rest => (some false, rest)
    | '-' :: rest => (some true, rest)
    | other => (none, other)
  if isWord "inf" body || isWord "infinity" body then
    some (if sign == some true then -(1.0 / 0.0) else 1.0 / 0.0)
  else if sign.isNone && isWord "nan" body then some (0.0 / 0.0)
  else none

end FloatText

/-- Reads a double from its text. -/
def readFloat (text : String) : Except FloatError Float :=
  let chars := text.toList
  match FloatText.special chars with
  | some value => .ok value
  | none =>
    match FloatText.literal chars with
    | none => .error (.malformed text)
    | some lit =>
      let value := lit.value
      if value.isInf then .error (.range text) else .ok value

end Bourse
