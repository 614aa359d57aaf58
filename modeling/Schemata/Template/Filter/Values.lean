import Schemata.Number.Arithmetic
import Schemata.Template.Filter.Argument

/-!
# Filters of numbers, objects and data of any shape
-/

namespace Schemata.Template.Filter

/-- The least integer of sixty-four bits has no opposite and stays as it is. -/
def abs : Filter := fun d _ =>
  match d with
  | .number (.int i) => .ok (ofInt (if i = IntRange.int64.low then i else i.natAbs))
  | .number (.float x) => .ok (ofDouble x.abs)
  | _ => .error .notAbsolute

/-- Whether a number is one or minus one, up to the last bits. -/
def isUnit (x : Double) : Bool :=
  let distance := (x.abs.sub (Double.ofInt 1)).abs
  distance.orderKey ≤ (Double.ofRatio false 1 (twoTo 52)).orderKey

def pluralize : Filter := fun d args => do
  let n ← value "pluralize" .double Data.double? d
  let plural ← withDefault "pluralize" "plural" .string Data.string? args "s"
  let singular ← withDefault "pluralize" "singular" .string Data.string? args ""
  return .string (if isUnit n then singular else plural)

def round : Filter := fun d args => do
  let n ← value "round" .double Data.double? d
  let method ← withDefault "round" "method" .string Data.string? args "common"
  let precision ← withDefault "round" "precision" .int32 Data.int32? args 0
  let power := Double.tenPower precision.natAbs
  let scale :=
    if 0 ≤ precision then power
    else if power.isFinite then (Double.ofInt 1).div power
    else Double.ofInt 0
  let rounded (way : Double.Rounding) : Data :=
    let scaled := scale.mul n
    if scale.isFinite && scaled.isFinite then ofDouble ((scaled.toWhole way).div scale) else .null
  match method with
  | "common" => return rounded .nearest
  | "ceil" => return rounded .up
  | "floor" => return rounded .down
  | other => throw (.roundMethod other)

def length : Filter := fun d _ =>
  match d with
  | .list items => .ok (ofInt items.length)
  | .object entries => .ok (ofInt entries.length)
  | .string s => .ok (ofInt s.length)
  | _ => .error .noLength

def reverse : Filter := fun d _ =>
  match d with
  | .list items => .ok (.list items.reverse)
  | .string s => .ok (.string (String.ofList s.toList.reverse))
  | d => .error (.notReversible d)

def jsonEncode : Filter := fun d args =>
  let isPretty := ((args.get? "pretty").bind Data.bool?).getD false
  .ok (.string (if isPretty then d.prettyJson else d.json))

def asString : Filter := fun d _ => .ok (.string d.text)

def get : Filter := fun d args => do
  match ← optional "get" "key" .string Data.string? args with
  | none => throw (.missingArgument "get" "key")
  | some key =>
    match d with
    | .object entries =>
      match (entries.lookup key).or (args.get? "default") with
      | some found => return found
      | none => throw (.noEntry key)
    | _ => throw .notAnObject

def values : List (String × Filter) :=
  [("abs", abs), ("pluralize", pluralize), ("round", round), ("length", length),
    ("reverse", reverse), ("json_encode", jsonEncode), ("as_str", asString), ("get", get)]

end Schemata.Template.Filter
