import Schemata.Data

/-!
# Access to data

Equality of data, truth of data in conditions, and the parts that a list of steps leads to.
-/

namespace Schemata

namespace Number

/-- Equality that keeps integers and floats apart. -/
def same : Number → Number → Bool
  | .int i, .int j => i == j
  | .float d, .float e => d.numEq e
  | _, _ => false

/-- Whether a number counts as true. -/
def isTruthy : Number → Bool
  | .int i => i != 0
  | .float d => !d.isZero && !d.isNaN

end Number

namespace Data

mutual

/-- Equality of data; the order of entries does not count. -/
def same : Data → Data → Bool
  | .null, .null => true
  | .bool a, .bool b => a == b
  | .number m, .number n => m.same n
  | .string s, .string t => s == t
  | .list xs, .list ys => sameItems xs ys
  | .object es, .object fs => es.length == fs.length && sameEntries es fs
  | _, _ => false

def sameItems : List Data → List Data → Bool
  | [], [] => true
  | x :: xs, y :: ys => x.same y && sameItems xs ys
  | _, _ => false

/-- Whether each entry is among the others. -/
def sameEntries : List (String × Data) → List (String × Data) → Bool
  | [], _ => true
  | (name, d) :: rest, fs =>
    (match fs.lookup name with
      | some e => d.same e
      | none => false) && sameEntries rest fs

end

/-- Whether data counts as true: zero, null and whatever is empty do not. -/
def isTruthy : Data → Bool
  | .null => false
  | .bool b => b
  | .number n => n.isTruthy
  | .string s => !s.isEmpty
  | .list items => !items.isEmpty
  | .object entries => !entries.isEmpty

/-- The index that a step spells: digits without a leading zero. -/
def index? (step : String) : Option Nat :=
  match step.toList with
  | [] => none
  | ['0'] => some 0
  | '0' :: _ => none
  | digits =>
    if digits.all Char.isDigit then
      some (digits.foldl (fun acc c => acc * 10 + (c.toNat - '0'.toNat)) 0)
    else none

/-- The part that one step leads to. -/
def child? (d : Data) (step : String) : Option Data :=
  match d with
  | .object entries => entries.lookup step
  | .list items => (index? step).bind (items[·]?)
  | _ => none

/-- The part that a list of steps leads to. -/
def part? : Data → List String → Option Data
  | d, [] => some d
  | d, step :: rest => (d.child? step).bind (part? · rest)

end Data

end Schemata
