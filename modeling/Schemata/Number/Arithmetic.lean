import Schemata.Number

/-!
# Arithmetic on doubles

Sums, products, quotients and remainders of finite doubles, as the double nearest to the exact
value; remainders and whole parts are exact. A zero keeps the sign that its rule gives it.
-/

namespace Schemata.Double

/-- The value of a finite double is `signed * 2 ^ exponent`. -/
def signed (d : Double) : Int := if d.isNegative then -(d.mantissa : Int) else d.mantissa

/-- The double nearest to `m * 2 ^ e`; `negative` is the sign of a zero. -/
def ofScaled (negative : Bool) (m e : Int) : Double :=
  let sign := if m = 0 then negative else decide (m < 0)
  if e < 0 then ofRatio sign m.natAbs (twoTo e.natAbs)
  else ofRatio sign (m.natAbs * twoTo e.natAbs) 1

/-- The values of two doubles as multiples of one power of two. -/
def aligned (a b : Double) : Int × Int × Int :=
  let e := min a.exponent b.exponent
  (a.signed * twoTo (a.exponent - e).natAbs, b.signed * twoTo (b.exponent - e).natAbs, e)

def neg (d : Double) : Double := ofUnsigned (!d.isNegative) d.unsigned

def abs (d : Double) : Double := ofUnsigned false d.unsigned

/-- The sum; a zero is negative when both terms are. -/
def add (a b : Double) : Double :=
  let (x, y, e) := aligned a b
  ofScaled (a.isNegative && b.isNegative) (x + y) e

def sub (a b : Double) : Double := a.add b.neg

def mul (a b : Double) : Double :=
  ofScaled (a.isNegative != b.isNegative) (a.signed * b.signed) (a.exponent + b.exponent)

/-- The quotient; by zero it is infinite, and zero by zero is no number. -/
def div (a b : Double) : Double :=
  let negative := a.isNegative != b.isNegative
  if b.isZero then
    if a.isZero then nan else if negative then negInfinity else infinity
  else
    let (x, y, _) := aligned a b
    ofRatio negative x.natAbs y.natAbs

/-- What is left of `a` once `b` is taken from it as often as it fits; the sign is that of `a`. -/
def rem (a b : Double) : Double :=
  if b.isZero then nan
  else
    let (x, y, e) := aligned a b
    ofScaled a.isNegative (x.tmod y) e

/-- Ten to a power, as the product of powers whose exponents are powers of two; every product is
rounded. -/
def tenPower (n : Nat) : Double :=
  if 400 ≤ n then infinity
  else
    let (power, _) := (List.range 9).foldl (fun (power, base) i =>
      (if n.testBit i then power.mul base else power, base.mul base)) (ofInt 1, ofInt 10)
    power

/-! ## Whole numbers -/

/-- The way to a whole number. -/
inductive Rounding where
  /-- To the nearest, halves away from zero. -/
  | nearest
  | up
  | down
deriving DecidableEq, Repr

/-- A whole number near `m * 2 ^ -k`. -/
def wholeOf (way : Rounding) (m : Int) (k : Nat) : Int :=
  match way with
  | .down => m.fdiv (twoTo k)
  | .up => -((-m).fdiv (twoTo k))
  | .nearest =>
    let q : Int := ((2 * m.natAbs + twoTo k) / (2 * twoTo k) : Nat)
    if m < 0 then -q else q

/-- Rounds a finite double to a whole number. -/
def toWhole (way : Rounding) (d : Double) : Double :=
  if d.exponent < 0 then ofScaled d.isNegative (wholeOf way d.signed d.exponent.natAbs) 0 else d

def isWhole (d : Double) : Bool := d.isFinite && (d.toWhole .nearest).numEq d

end Schemata.Double
