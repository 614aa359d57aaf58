import Schemata.Number.Arithmetic
import Schemata.Template.Fault

/-!
# Arithmetic of templates

Integers are added, subtracted and multiplied exactly, within the range of the operands: signed
sixty-four bits, or unsigned ones when an operand needs them. All else is arithmetic on doubles.
Where the result is no finite number there is none, and a template prints `NaN`.
-/

namespace Schemata

namespace Number

def isInt64 : Number → Bool
  | .int i => IntRange.int64.holds i
  | .float _ => false

def isNat64 : Number → Bool
  | .int i => IntRange.nat64.holds i
  | .float _ => false

/-- A double as a number, if it is finite. -/
def ofDouble? (d : Double) : Option Number := if d.isFinite then some (.float d) else none

end Number

namespace Template

/-- Keeps a result within a range of integers. -/
def within (sign : String) (lhs rhs result : Int) (isSigned : Bool) :
    Except ArithFault (Option Number) :=
  let n := Number.int result
  if isSigned then
    if n.isInt64 then .ok (some n) else .error (.overflow sign lhs rhs "i64")
  else if n.isNat64 then .ok (some n) else .error (.overflow sign lhs rhs "u64")

/-- Integers by one operation and doubles by another. -/
def byRange (sign : String) (exact : Int → Int → Int) (rounded : Double → Double → Double)
    (l r : Number) : Except ArithFault (Option Number) :=
  match l, r with
  | .int i, .int j =>
    if l.isInt64 && r.isInt64 then within sign i j (exact i j) true
    else if l.isNat64 && r.isNat64 then within sign i j (exact i j) false
    else .ok (Number.ofDouble? (rounded l.toDouble r.toDouble))
  | _, _ => .ok (Number.ofDouble? (rounded l.toDouble r.toDouble))

/-- The quotient; a whole one is an integer. -/
def quotient (l r : Number) : Option Number :=
  let q := l.toDouble.div r.toDouble
  if q.isWhole then some (.int (IntRange.int64.clamp q.truncate))
  else Number.ofDouble? q

def remainder (lhs rhs : Expr) (l r : Number) : Except ArithFault (Option Number) :=
  match l, r with
  | .int i, .int j =>
    if (l.isInt64 && r.isInt64) || (l.isNat64 && r.isNat64) then
      if j = 0 then .error (.remainderByZero lhs rhs) else .ok (some (.int (i.tmod j)))
    else .ok (Number.ofDouble? (l.toDouble.rem r.toDouble))
  | _, _ => .ok (Number.ofDouble? (l.toDouble.rem r.toDouble))

/-- The value of an operation; `lhs` and `rhs` are the operands as written. -/
def ArithOp.apply (lhs rhs : Expr) (op : ArithOp) (l r : Number) :
    Except ArithFault (Option Number) :=
  match op with
  | .add => byRange "+" (· + ·) Double.add l r
  | .sub => byRange "-" (· - ·) Double.sub l r
  | .mul => byRange "x" (· * ·) Double.mul l r
  | .div => .ok (quotient l r)
  | .rem => remainder lhs rhs l r

/-- Whether an order holds between two numbers, as doubles. Equality is not an order. -/
def Relation.holds (op : Relation) (l r : Number) : Bool :=
  let a := l.toDouble.orderKey
  let b := r.toDouble.orderKey
  match op with
  | .lt => a < b
  | .le => a ≤ b
  | .gt => b < a
  | .ge => b ≤ a
  | .eq | .ne => false

end Template

end Schemata
