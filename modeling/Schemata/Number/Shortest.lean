import Schemata.Number.Double

/-!
# Shortest decimals

`Double.shortest` is the decimal with the fewest digits that reads back as the double, and of
those the nearest to it. Each number of digits from 1 to 17 gives a grid of decimals; a grid has
a point that reads back if and only if one of the value's two neighbours on it does.
-/

namespace Schemata.Double

/-- A decimal: `digits * 10 ^ exponent`. -/
structure Decimal where
  digits : Nat
  exponent : Int
deriving DecidableEq, Repr, Inhabited

/-- The reals that read back as a positive double, in quarters of a unit in the last place:
`low / scale ≤ x ≤ high / scale`, the ends included if and only if `closed`. -/
structure Basin where
  low : Nat
  value : Nat
  high : Nat
  scale : Nat
  closed : Bool

/-- Below a power of two the doubles are twice as dense. -/
def basin (d : Double) : Basin :=
  let m := d.mantissa
  let below := if m = twoTo 52 && twoTo 53 ≤ d.unsigned then 1 else 2
  let up := if 2 ≤ d.exponent then twoTo (d.exponent - 2).natAbs else 1
  let down := if 2 ≤ d.exponent then 1 else twoTo (2 - d.exponent).natAbs
  { low := (4 * m - below) * up, value := 4 * m * up, high := (4 * m + 2) * up,
    scale := down, closed := m % 2 == 0 }

/-- Whether the decimal lies in the basin. -/
def Basin.holds (b : Basin) (x : Decimal) : Bool :=
  let up := if x.exponent < 0 then 1 else tenTo x.exponent.natAbs
  let down := if x.exponent < 0 then tenTo x.exponent.natAbs else 1
  let here := x.digits * up * b.scale
  if b.closed then b.low * down ≤ here && here ≤ b.high * down
  else b.low * down < here && here < b.high * down

/-- The value divided by `10 ^ exponent`, as a fraction. -/
def Basin.ratio (b : Basin) (exponent : Int) : Nat × Nat :=
  if exponent < 0 then (b.value * tenTo exponent.natAbs, b.scale)
  else (b.value, b.scale * tenTo exponent.natAbs)

/-- The best decimal on the grid of multiples of `10 ^ exponent`, if one reads back. -/
def Basin.onGrid (b : Basin) (exponent : Int) : Option Decimal :=
  let (num, den) := b.ratio exponent
  let floor := num / den
  let below : Decimal := { digits := floor, exponent }
  let above : Decimal := { digits := floor + 1, exponent }
  let twice := 2 * (num % den)
  match b.holds below, b.holds above with
  | true, true =>
    if twice < den || (twice == den && floor % 2 == 0) then some below else some above
  | true, false => some below
  | false, true => some above
  | false, false => none

/-- An exponent `k` with `10 ^ (k - 1) ≤ value < 10 ^ k`, found upward from a lower bound. -/
def Basin.magnitudeFrom (b : Basin) : Nat → Int → Int
  | 0, k => k
  | fuel + 1, k =>
    let (num, den) := b.ratio k
    if num < den then k else b.magnitudeFrom fuel (k + 1)

/-- The first grid that has a decimal reading back, from `count` digits on. -/
def Basin.search (b : Basin) (top : Int) : Nat → Nat → Decimal
  | 0, count => (b.onGrid (top - count)).getD { digits := 0, exponent := 0 }
  | fuel + 1, count =>
    match b.onGrid (top - count) with
    | some x => x
    | none => b.search top fuel (count + 1)

/-- Removes trailing zeros from the digits. -/
def Decimal.trim : Nat → Decimal → Decimal
  | 0, x => x
  | fuel + 1, x =>
    if x.digits % 10 = 0 && x.digits ≠ 0 then
      Decimal.trim fuel { digits := x.digits / 10, exponent := x.exponent + 1 }
    else x

/-- The shortest decimal that reads back as the magnitude of a finite double. -/
def shortest (d : Double) : Decimal :=
  if d.isZero then { digits := 0, exponent := 0 }
  else
    let b := d.basin
    let estimate : Int := ((b.value.log2 : Int) - b.scale.log2) * 30103 / 100000 - 1
    ((b.search (b.magnitudeFrom 8 estimate) 16 1)).trim 20

end Schemata.Double
