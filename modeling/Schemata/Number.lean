import Schemata.Number.WrittenForm

/-!
# Numbers

Integers and doubles are kept apart: `1` and `1.0` are different numbers.
-/

namespace Schemata

/-- A number of a document or of template data. -/
inductive Number where
  | int (value : Int)
  | float (value : Double)
deriving DecidableEq, Repr, Inhabited

namespace Number

def isFinite : Number → Bool
  | .int _ => true
  | .float d => d.isFinite

/-- The written form of a number; integers are decimal in every form. -/
def write (form : Double.WrittenForm) : Number → String
  | .int i => toString i
  | .float d => d.write form

/-- The double nearest to the number. -/
def toDouble : Number → Double
  | .int i => Double.ofInt i
  | .float d => d

end Number

end Schemata
