import Schemata.Toml.Text

/-!
# TOML numbers

Integers in four bases, of sixty-four bits, and doubles. Single underscores may stand between
digits.
-/

namespace Schemata.Toml.Reader

def isSign (c : Char) : Bool := c == '+' || c == '-'

/-- Digits behind the first one. -/
def moreDigits (isDigit : Char → Bool) : Reader Unit := do
  discard <| many <| orElse (char isDigit) do
    lit "_"
    wanting .digit (settle (char isDigit))

/-- Digits, of which the first may be a zero. -/
def digits (isDigit : Char → Bool) : Reader Unit := do
  discard (char isDigit)
  moreDigits isDigit

/-- A decimal integer, without zeros in front. -/
def decimal : Reader Unit :=
  named .integer do
    discard (maybe (char isSign))
    orElse (do discard (char fun c => c.isDigit && c != '0'); moreDigits Char.isDigit)
      (discard (char Char.isDigit))

/-- An integer, if it fits. -/
def fitting (value : Int) : Except Fault Int :=
  if IntRange.int64.high < value then .error { cause := some .tooLarge }
  else if value < IntRange.int64.low then .error { cause := some .tooSmall }
  else .ok value

/-- The value of digits among which underscores may stand. -/
def integerValue (base : Nat) (digits : List Char) : Int :=
  (Numeral.integer? base (digits.filter (· != '_'))).getD 0

/-- An integer behind the mark of its base. -/
def based (mark : String) (rule : Rule) (base : Nat) : Reader Int :=
  let isDigit (c : Char) : Bool := (Numeral.digitValue? base c).isSome
  settle <| checked
    (named rule do
      lit mark
      settle (taken (digits isDigit)))
    (fun ds => fitting (integerValue base ds))

def integer : Reader Int := do
  match ← maybe (ahead (counted 2 2 fun _ => true)) with
  | some ['0', 'x'] => based "0x" .hexadecimal 16
  | some ['0', 'o'] => based "0o" .octal 8
  | some ['0', 'b'] => based "0b" .binary 2
  | _ => checkedFirmly (taken decimal) fun ds => fitting (integerValue 10 ds)

def exponent : Reader Unit := do
  discard (char fun c => c == 'e' || c == 'E')
  discard (maybe (char isSign))
  settle (digits Char.isDigit)

def fraction : Reader Unit := do
  lit "."
  wanting .digit (settle (digits Char.isDigit))

/-- A decimal with a fraction or an exponent. -/
def pointed : Reader Unit := do
  decimal
  orElse exponent do
    fraction
    discard (maybe exponent)

/-- The double that digits spell, unless it is too large. -/
def doubleValue (digits : List Char) : Except Fault Double :=
  match Numeral.double? (digits.filter (· != '_')) with
  | some d => if d == Double.infinity then .error {} else .ok d
  | none => .error {}

def infinite : Reader Double := do
  lit "inf"
  return Double.infinity

def notANumber : Reader Double := do
  lit "nan"
  return Double.nan

def specialFloat : Reader Double := do
  let sign ← maybe (char isSign)
  let d ← orElse infinite notANumber
  return if sign == some '-' && d == Double.infinity then Double.negInfinity else d

def float : Reader Double :=
  named .float (orElse (checkedFirmly (taken pointed) doubleValue) specialFloat)

end Schemata.Toml.Reader
