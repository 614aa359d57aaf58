import Schemata.Number.Range

/-!
# Double-precision numbers

`Double` is the sixty-four bits of a binary floating-point number: a sign, an exponent and a
fraction. Readings of decimals are exact natural-number arithmetic: `ofRatio` takes the nearest
double, and of two equally near ones the one with the even fraction.
-/

namespace Schemata

/-- A binary floating-point number of sixty-four bits. -/
structure Double where
  bits : UInt64
deriving DecidableEq, Repr, Inhabited

namespace Double

def nan : Double := ⟨0x7FF8000000000000⟩

def infinity : Double := ⟨0x7FF0000000000000⟩

def negInfinity : Double := ⟨0xFFF0000000000000⟩

def isNegative (d : Double) : Bool := 0x8000000000000000 ≤ d.bits.toNat

/-- The bits without the sign, which order the magnitudes. -/
def unsigned (d : Double) : Nat := d.bits.toNat % 0x8000000000000000

def isFinite (d : Double) : Bool := d.unsigned < 0x7FF0000000000000

def isNaN (d : Double) : Bool := 0x7FF0000000000000 < d.unsigned

def isZero (d : Double) : Bool := d.unsigned == 0

/-- A finite magnitude is `mantissa * 2 ^ exponent`. -/
def mantissa (d : Double) : Nat :=
  let fraction := d.unsigned % twoTo 52
  if d.unsigned < twoTo 52 then fraction else twoTo 52 + fraction

/-- The power of two that scales `mantissa`. -/
def exponent (d : Double) : Int :=
  if d.unsigned < twoTo 52 then -1074 else (d.unsigned / twoTo 52 : Nat) - 1075

/-- A double from its sign and the bits of its magnitude; from the bits of infinity up it is
infinite. -/
def ofUnsigned (negative : Bool) (magnitude : Nat) : Double :=
  let clipped := min magnitude 0x7FF0000000000000
  ⟨UInt64.ofNat (if negative then 0x8000000000000000 + clipped else clipped)⟩

/-- The quotient rounded to the nearest natural number, a half to the even one. -/
def roundDiv (num den : Nat) : Nat :=
  let q := num / den
  let twice := 2 * (num % den)
  if twice < den then q
  else if den < twice then q + 1
  else q + q % 2

/-- `num / den * 2 ^ -shift`, rounded to the nearest natural number. -/
def scaled (num den : Nat) (shift : Int) : Nat :=
  if shift < 0 then roundDiv (num * twoTo shift.natAbs) den
  else roundDiv num (den * twoTo shift.natAbs)

/-- The double nearest to `num / den`. -/
def ofRatio (negative : Bool) (num den : Nat) : Double :=
  if num = 0 then ofUnsigned negative 0
  else
    -- The quotient at this scale lies strictly between 2 ^ 52 and 2 ^ 54.
    let fine : Int := (num.log2 : Int) - den.log2 - 53
    let isWide : Bool :=
      if fine < 0 then den * twoTo 53 ≤ num * twoTo fine.natAbs
      else den * twoTo fine.natAbs * twoTo 53 ≤ num
    let shift := max (if isWide then fine + 1 else fine) (-1074)
    ofUnsigned negative ((shift + 1074).toNat * twoTo 52 + scaled num den shift)

/-- The double nearest to `digits * 10 ^ exponent`. Scales that are surely out of range are cut
off before any power is taken. -/
def ofDecimal (negative : Bool) (digits : Nat) (exponent : Int) : Double :=
  let size : Int := digits.log2 / 3 + exponent
  if digits = 0 then ofUnsigned negative 0
  else if 400 < exponent + digits.log2 / 4 then ofUnsigned negative 0x7FF0000000000000
  else if size < -400 then ofUnsigned negative 0
  else if exponent < 0 then ofRatio negative digits (tenTo exponent.natAbs)
  else ofRatio negative (digits * tenTo exponent.natAbs) 1

/-- The double nearest to an integer. -/
def ofInt (i : Int) : Double := ofRatio (i < 0) i.natAbs 1

/-- Numeric equality: the zeros are equal, and nothing equals a NaN. -/
def numEq (a b : Double) : Bool :=
  !a.isNaN && !b.isNaN && (a == b || (a.isZero && b.isZero))

/-- A key that orders the doubles other than NaN by value. -/
def orderKey (d : Double) : Int :=
  if d.isNegative then -(d.unsigned : Int) else d.unsigned

/-- A key that orders the doubles as `orderKey` does, but the negative zero before the other. -/
def totalKey (d : Double) : Int :=
  if d.isNegative then -(d.unsigned : Int) - 1 else d.unsigned

/-- The integer part, toward zero, of a finite double. -/
def truncate (d : Double) : Int :=
  let magnitude : Nat :=
    if d.exponent < 0 then d.mantissa / twoTo d.exponent.natAbs
    else d.mantissa * twoTo d.exponent.natAbs
  if d.isNegative then -(magnitude : Int) else magnitude

end Double

end Schemata
