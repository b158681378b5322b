import Bourse.Double.Shortest

/-!
# Writing doubles

A double is written with its shortest decimal. Where the digits go is a layout: the exponents
of the leading digit that are written positionally, and otherwise the exponent form, with a
marked sign and a least number of exponent digits. Negative values, negative zero included, have
a minus sign; the non-finite values have texts of their own.
-/

namespace Bourse

/-- How a double's shortest decimal is laid out. -/
structure FloatLayout where
  /-- The least exponent of the leading digit written positionally. -/
  plainFrom : Int
  /-- The exponents of the leading digit from here on are written in exponent form. -/
  plainBelow : Int
  /-- The least number of digits of an exponent. -/
  exponentWidth : Nat
  /-- The text of a value that is not a number. -/
  notANumber : String
  /-- The text of positive infinity. -/
  positiveInfinity : String
  /-- The text of negative infinity. -/
  negativeInfinity : String
  deriving Repr, Inhabited

namespace FloatLayout

/-- Decimal digits of a natural number. -/
def digitText (n : Nat) : String := String.ofList (Nat.toDigits 10 n)

/-- The exponent form: the leading digit, the others after a point, `e`, the sign and the
exponent padded with zeros to the least width. -/
def exponentForm (layout : FloatLayout) (digits : String) (leading : Int) : String :=
  let chars := digits.toList
  let mantissa := match chars with
    | first :: rest@(_ :: _) => String.ofList (first :: '.' :: rest)
    | _ => digits
  let power := digitText leading.natAbs
  let padded := String.ofList (List.replicate (layout.exponentWidth - power.length) '0') ++ power
  mantissa ++ "e" ++ (if leading < 0 then "-" else "+") ++ padded

/-- The positional form of the digits with the point after `point` of them. -/
def positional (digits : String) (point : Int) : String :=
  let chars := digits.toList
  if point ≤ 0 then "0." ++ String.ofList (List.replicate point.natAbs '0') ++ digits
  else if point.toNat < chars.length then
    String.ofList (chars.take point.toNat) ++ "." ++ String.ofList (chars.drop point.toNat)
  else digits ++ String.ofList (List.replicate (point.toNat - chars.length) '0')

/-- Lays out a non-negative decimal without trailing zeros. -/
def place (layout : FloatLayout) (value : Decimal) : String :=
  if value.coefficient == 0 then "0"
  else
    let digits := digitText value.coefficient.natAbs
    let point := (digits.length : Int) + value.exponent
    let leading := point - 1
    if layout.plainFrom ≤ leading && leading < layout.plainBelow then positional digits point
    else layout.exponentForm digits leading

/-- Writes a double. -/
def render (layout : FloatLayout) (x : Float) : String :=
  if x.isNaN then layout.notANumber
  else if x.isInf then (if x > 0 then layout.positiveInfinity else layout.negativeInfinity)
  else
    let bits := x.toBits
    let sign := if bits >>> 63 == 1 then "-" else ""
    sign ++ layout.place (Binary64.ofBits bits).shortest

/-- The general layout: positional while the leading digit's exponent is from `-4` to `5`,
otherwise the exponent form with at least two exponent digits (`1e+06`, `1.5e-07`). -/
def general : FloatLayout := ⟨-4, 6, 2, "NaN", "+Inf", "-Inf"⟩

end FloatLayout

end Bourse
