import Schemata.Number.Arithmetic
import Schemata.Template.Filter.Argument
import Schemata.Text.Pattern

/-!
# Tests

A test answers whether something holds of a value, which may be undefined, and some parameters.
-/

namespace Schemata.Template

/-- The value is missing where the variable is undefined. -/
abbrev Test := Option Data → List Data → Except TestFault Bool

namespace Test

/-- Checks the number of parameters. -/
def atMost (max : Nat) (name : String) (params : List Data) : Except TestFault Unit :=
  if params.length ≤ max then .ok ()
  else if max = 0 then .error (.someArguments name)
  else .error (.manyArguments name params.length max)

/-- A value that has to be defined. -/
def defined (name : String) (value : Option Data) : Except TestFault Data :=
  match value with
  | some d => .ok d
  | none => .error (.undefinedValue name)

/-- A test of the value alone. -/
def ofValue (name : String) (holds : Data → Bool) : Test := fun value params => do
  atMost 0 name params
  return holds (← defined name value)

/-- A test of whether there is a value. -/
def ofPresence (name : String) (holds : Option Data → Bool) : Test := fun value params => do
  atMost 0 name params
  return holds value

/-- Whether a number divided by two leaves something. -/
def isOdd (d : Double) : Bool := !(d.rem (Double.ofInt 2)).isZero

def odd : Test := fun value params => do
  atMost 0 "odd" params
  match (← defined "odd" value).double? with
  | some d => return isOdd d
  | none => throw (.notANumber "odd")

def even : Test := fun value params => do
  atMost 0 "even" params
  discard (defined "even" value)
  return !(← odd value params)

def divisibleBy : Test := fun value params => do
  atMost 1 "divisibleby" params
  match (← defined "divisibleby" value).double? with
  | none => throw (.notANumber "divisibleby")
  | some d =>
    match params.head?.bind Data.double? with
    | none => throw (.parameterNotANumber "divisibleby")
    | some by_ => return (d.rem by_).isZero

/-- The text of a parameter that has to be a string. -/
def textParam (name : String) (params : List Data) : Except TestFault String :=
  match params.head?.bind Data.string? with
  | some s => .ok s
  | none => .error (.parameterNotAString name)

/-- A test of a string by another one. -/
def ofText (name : String) (holds : String → String → Except TestFault Bool) : Test :=
  fun value params => do
    atMost 1 name params
    match (← defined name value).string? with
    | none => throw (.notAString name)
    | some s => holds s (← textParam name params)

def containing : Test := fun value params => do
  atMost 1 "containing" params
  match ← defined "containing" value with
  | .string s => return Text.contains s (← textParam "containing" params)
  | .list items => return params.head?.any fun d => items.any d.same
  | .object entries => return (entries.lookup (← textParam "containing" params)).isSome
  | _ => throw .noContents

def matchesPattern (s pattern : String) : Except TestFault Bool :=
  match Text.Pattern.read pattern with
  | .ok p => .ok (p.occursIn s)
  | .error e => .error (.badPattern (e.message pattern))

def isString : Data → Bool
  | .string _ => true
  | _ => false

def isNumber : Data → Bool
  | .number _ => true
  | _ => false

def isObject : Data → Bool
  | .object _ => true
  | _ => false

def isIterable : Data → Bool
  | .list _ | .object _ => true
  | _ => false

/-- The test of a name. -/
def named? (name : String) : Option Test :=
  [("defined", ofPresence "defined" Option.isSome),
    ("undefined", ofPresence "undefined" Option.isNone),
    ("odd", odd),
    ("even", even),
    ("string", ofValue "string" isString),
    ("number", ofValue "number" isNumber),
    ("divisibleby", divisibleBy),
    ("iterable", ofValue "iterable" isIterable),
    ("object", ofValue "object" isObject),
    ("starting_with", ofText "starting_with" fun s t => .ok (Text.startsWith s t)),
    ("ending_with", ofText "ending_with" fun s t => .ok (Text.endsWith s t)),
    ("containing", containing),
    ("matching", ofText "matching" matchesPattern)].lookup name

end Test

end Schemata.Template
