import Schemata.Number.Double

/-!
# Numerals

Readings of digits: natural numbers and integers in a base, and decimal fractions.
-/

namespace Schemata.Numeral

/-- The value of a digit below `base`. -/
def digitValue? (base : Nat) (c : Char) : Option Nat :=
  let value :=
    if c.isDigit then some (c.toNat - '0'.toNat)
    else if 'a' ≤ c && c ≤ 'z' then some (c.toNat - 'a'.toNat + 10)
    else if 'A' ≤ c && c ≤ 'Z' then some (c.toNat - 'A'.toNat + 10)
    else none
  value.filter (· < base)

/-- The value of a numeral without a sign. -/
def natural? (base : Nat) : List Char → Option Nat
  | [] => none
  | digits => digits.foldlM (fun acc c => (digitValue? base c).map (acc * base + ·)) 0

/-- The value of a numeral with an optional sign. -/
def integer? (base : Nat) : List Char → Option Int
  | '-' :: digits => (natural? base digits).map fun n => -(n : Int)
  | '+' :: digits => (natural? base digits).map Int.ofNat
  | digits => (natural? base digits).map Int.ofNat

/-- A decimal fraction as read: digits and the power of ten of the last one. -/
structure Fraction where
  digits : Nat := 0
  exponent : Int := 0

/-- Splits off the digits at the front. -/
def spanDigits (text : List Char) : List Char × List Char := text.span Char.isDigit

/-- Reads a decimal fraction without a sign: digits with an optional point among or around them,
and an optional exponent. -/
def fraction? (text : List Char) : Option Fraction :=
  let (whole, rest) := spanDigits text
  let (part, rest) := match rest with
    | '.' :: rest => spanDigits rest
    | rest => ([], rest)
  let digits := whole ++ part
  let value := (natural? 10 digits).getD 0
  if digits.isEmpty then none
  else
    match rest with
    | [] => some { digits := value, exponent := -(part.length : Int) }
    | c :: rest =>
      if c == 'e' || c == 'E' then
        (integer? 10 rest).map fun e => { digits := value, exponent := e - part.length }
      else none

/-- The double nearest to a decimal fraction with an optional sign. -/
def double? (text : List Char) : Option Double :=
  let read (negative : Bool) (rest : List Char) : Option Double :=
    (fraction? rest).map fun f => Double.ofDecimal negative f.digits f.exponent
  match text with
  | '-' :: rest => read true rest
  | '+' :: rest => read false rest
  | rest => read false rest

end Schemata.Numeral
