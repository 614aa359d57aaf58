import Schemata.Number.Shortest

/-!
# Written forms of doubles

A `WrittenForm` holds the choices a written form leaves open; `Double.write` applies one to the
shortest decimal.
-/

namespace Schemata.Double

/-- How doubles are written. With the decimal point after `point` digits (counted from the first
digit, negative when zeros precede it), the number is written out in full when
`lowest < point ≤ highest`, else with an exponent. -/
structure WrittenForm where
  /-- The bounds of the written-out forms; `none` writes every number out. -/
  positional : Option (Int × Int)
  /-- Whether a written-out whole number ends in `.0`. -/
  wholePoint : Bool
  /-- Whether a positive exponent has a sign. -/
  plus : Bool
  nan : String
  infinity : String
  negInfinity : String

/-- The form of numbers in documents. -/
def WrittenForm.document : WrittenForm :=
  { positional := some (-5, 16), wholePoint := true, plus := false,
    nan := ".nan", infinity := ".inf", negInfinity := "-.inf" }

/-- The form of numbers in template data. -/
def WrittenForm.data : WrittenForm :=
  { positional := some (-5, 16), wholePoint := true, plus := true,
    nan := "null", infinity := "null", negInfinity := "null" }

/-- The form of numbers printed by a template. -/
def WrittenForm.printed : WrittenForm :=
  { positional := none, wholePoint := false, plus := false,
    nan := "NaN", infinity := "inf", negInfinity := "-inf" }

/-- The form of numbers quoted in messages: as printed, but a whole number keeps its point. -/
def WrittenForm.quoted : WrittenForm :=
  { WrittenForm.printed with wholePoint := true }

def zeros (n : Nat) : String := String.ofList (List.replicate n '0')

/-- Digits with a decimal point after the first `point` of them. -/
def writeOut (digits : List Char) (point : Int) (wholePoint : Bool) : String :=
  if point ≤ 0 then "0." ++ zeros point.natAbs ++ String.ofList digits
  else if digits.length ≤ point.natAbs then
    String.ofList digits ++ zeros (point.natAbs - digits.length) ++
      if wholePoint then ".0" else ""
  else
    String.ofList (digits.take point.natAbs) ++ "." ++ String.ofList (digits.drop point.natAbs)

/-- Digits with a point after the first of them, and an exponent. -/
def writeScientific (digits : List Char) (exponent : Int) (plus : Bool) : String :=
  let sign := if plus && 0 ≤ exponent then "+" else ""
  let fraction := match digits.tail with
    | [] => ""
    | rest => "." ++ String.ofList rest
  String.ofList (digits.take 1) ++ fraction ++ "e" ++ sign ++ toString exponent

/-- The written form of a magnitude. -/
def Decimal.write (n : WrittenForm) (x : Decimal) : String :=
  let digits := Nat.toDigits 10 x.digits
  let point : Int := digits.length + x.exponent
  if x.digits = 0 then if n.wholePoint then "0.0" else "0"
  else
    match n.positional with
    | some (lowest, highest) =>
      if lowest < point && point ≤ highest then writeOut digits point n.wholePoint
      else writeScientific digits (point - 1) n.plus
    | none => writeOut digits point n.wholePoint

/-- The written form of a double. -/
def write (n : WrittenForm) (d : Double) : String :=
  if d.isNaN then n.nan
  else if !d.isFinite then if d.isNegative then n.negInfinity else n.infinity
  else (if d.isNegative then "-" else "") ++ d.shortest.write n

end Schemata.Double
