import Bourse.Decimal.Basic

/-!
# Shortest decimals of binary doubles

A finite double stands for every real number that rounds to it: the reals between the midpoints
to its two neighbours, the midpoints themselves included exactly when its mantissa is even. Of
the decimals in that interval, the one printed has the fewest significant digits; of two with
the fewest, the one nearer the double; of two equally near, the one whose last digit is even.

`Binary64.shortest` finds it by exact arithmetic on naturals. With the scale `k` of the value
(`10 ^ (k - 1) ≤ value < 10 ^ k`), it tries the grids `10 ^ (k - n)` for `n = 1, 2, …`: on
each, only the two grid points around the value can be in the interval, so testing both is
enough, and the first grid with a hit gives the digits.
-/

namespace Bourse

/-- A finite non-negative double, `mantissa * 2 ^ exponent`. -/
structure Binary64 where
  /-- The integer mantissa. -/
  mantissa : Nat
  /-- The power of two. -/
  exponent : Int
  /-- Whether the double below lies half as far away as the double above, as it does at a power
  of two above the least normal double. -/
  narrowBelow : Bool
  deriving Repr, DecidableEq

namespace Binary64

/-- The finite value of a double's bits, its sign left out. -/
def ofBits (bits : UInt64) : Binary64 :=
  let biased := ((bits >>> 52) &&& 0x7FF).toNat
  let fraction := (bits &&& 0xFFFFFFFFFFFFF).toNat
  if biased == 0 then ⟨fraction, -1074, false⟩
  else ⟨Nat.pow 2 52 + fraction, (biased : Int) - 1075, fraction == 0 && biased > 1⟩

/-- Compares `a * 10 ^ i` with `n * 2 ^ j` exactly. -/
def compareScaled (a : Nat) (i : Int) (n : Nat) (j : Int) : Ordering :=
  compare (a * Nat.pow 10 i.toNat * Nat.pow 2 (-j).toNat) (n * Nat.pow 2 j.toNat * Nat.pow 10 (-i).toNat)

/-- Whether `digits * 10 ^ place` rounds to the double: it lies between the midpoints to the
neighbours, which count when the mantissa is even. -/
def admits (x : Binary64) (digits : Nat) (place : Int) : Bool :=
  let low := if x.narrowBelow then 4 * x.mantissa - 1 else 4 * x.mantissa - 2
  let high := 4 * x.mantissa + 2
  let closed := x.mantissa % 2 == 0
  let atLow := compareScaled digits place low (x.exponent - 2)
  let atHigh := compareScaled digits place high (x.exponent - 2)
  (atLow == .gt || (closed && atLow == .eq)) && (atHigh == .lt || (closed && atHigh == .eq))

/-- Whether the value lies below `10 ^ k`. -/
def below (x : Binary64) (k : Int) : Bool := compareScaled 1 k x.mantissa x.exponent == .gt

/-- Moves a guess of the scale until `10 ^ (k - 1) ≤ value < 10 ^ k`, at most `fuel` steps. -/
def settleScale (x : Binary64) : Nat → Int → Int
  | 0, k => k
  | fuel + 1, k =>
    if !x.below k then x.settleScale fuel (k + 1)
    else if x.below (k - 1) then x.settleScale fuel (k - 1)
    else k

/-- The scale of a non-zero value: the least `k` with `value < 10 ^ k`. The guess from the
binary logarithm is off by at most two. -/
def scale (x : Binary64) : Int :=
  let binaryScale : Int := (x.mantissa.log2 : Int) + x.exponent
  x.settleScale 8 (binaryScale * 30103 / 100000 + 1)

/-- The grid point at or below the value on the grid `10 ^ place`. -/
def floorAt (x : Binary64) (place : Int) : Nat :=
  (x.mantissa * Nat.pow 2 x.exponent.toNat * Nat.pow 10 (-place).toNat) /
    (Nat.pow 2 (-x.exponent).toNat * Nat.pow 10 place.toNat)

/-- The decimal on the grid `10 ^ place` that rounds to the double, if one does: of the two
grid points around the value, the one that does, or the nearer, or the even one. -/
def onGrid (x : Binary64) (place : Int) : Option Nat :=
  let low := x.floorAt place
  let high := low + 1
  match x.admits low place, x.admits high place with
  | true, true =>
    match compareScaled (2 * low + 1) place (2 * x.mantissa) x.exponent with
    | .gt => some low
    | .lt => some high
    | .eq => some (if low % 2 == 0 then low else high)
  | true, false => some low
  | false, true => some high
  | false, false => none

/-- Drops trailing zeros of the digits into the exponent. -/
def stripZeros : Nat → Nat → Int → Nat × Int
  | 0, digits, place => (digits, place)
  | fuel + 1, digits, place =>
    if digits != 0 && digits % 10 == 0 then stripZeros fuel (digits / 10) (place + 1)
    else (digits, place)

/-- The exact decimal value of the double. -/
def exact (x : Binary64) : Decimal :=
  if 0 ≤ x.exponent then ⟨x.mantissa * Nat.pow 2 x.exponent.toNat, 0⟩
  else ⟨x.mantissa * Nat.pow 5 (-x.exponent).toNat, x.exponent⟩

/-- The shortest decimal that rounds to a non-zero double, without trailing zeros; zero for
zero. Seventeen significant digits always suffice. -/
def shortest (x : Binary64) : Decimal :=
  if x.mantissa == 0 then Decimal.zero
  else
    let k := x.scale
    match (List.range 17).findSome? fun n => (x.onGrid (k - (n + 1 : Nat))).map fun d =>
        (d, k - (n + 1 : Nat)) with
    | some (digits, place) =>
      let (digits, place) := stripZeros 20 digits place
      ⟨digits, place⟩
    | none => x.exact

end Binary64

end Bourse
