import Schemata.Data.Text
import Schemata.Template.Expr

/-!
# Faults of rendering

A `Fault` is what stops a rendering. Some faults have causes: `Fault.chain` lists the messages
from the outermost inward.
-/

namespace Schemata.Template

/-- What an argument or a value is asked to be. -/
inductive Shape where
  | string | bool | list | double
  | int64 | int32 | nat64 | nat32
deriving DecidableEq, Repr

def Shape.describe : Shape → String
  | .string => "String"
  | .bool => "bool"
  | .list => "Vec<Value>"
  | .double => "f64"
  | .int64 => "i64"
  | .int32 => "i32"
  | .nat64 => "usize"
  | .nat32 => "u32"

/-- Puts text between backticks. -/
def ticked (s : String) : String := "\x60" ++ s ++ "\x60"

/-- Faults of filters. -/
inductive FilterFault where
  | value (filter : String) (found : Data) (shape : Shape)
  | argument (filter name : String) (found : Data) (shape : Shape)
  | expectedArgument (filter name : String)
  | missingArgument (filter name : String)
  | nothingToConcat
  | notReversible (found : Data)
  | noLength
  | notAbsolute
  | notConvertible (filter : String)
  | roundMethod (method : String)
  | noAttribute (name : String)
  | notSortable (kind : String)
  | notComparable (kind : String) (found : Data)
  | notDistinguishable (reason : String)
  | noEntry (key : String)
  | notAnObject
  /-- A casing or type filter on something that is no string. -/
  | notText (filter : String) (found : Data)

def FilterFault.message : FilterFault → String
  | .value filter found shape =>
    "Filter " ++ ticked filter ++ " was called on an incorrect value: got " ++
      ticked found.json ++ " but expected a " ++ shape.describe
  | .argument filter name found shape =>
    "Filter " ++ ticked filter ++ " received an incorrect type for arg " ++ ticked name ++
      ": got " ++ ticked found.json ++ " but expected a " ++ shape.describe
  | .expectedArgument filter name =>
    "Filter " ++ ticked filter ++ " expected an arg called " ++ ticked name
  | .missingArgument filter name =>
    "The " ++ ticked filter ++ " filter has to have an " ++ ticked name ++ " argument"
  | .nothingToConcat =>
    "The " ++ ticked "concat" ++ " filter has to have a " ++ ticked "with" ++ " argument"
  | .notReversible found =>
    "Filter " ++ ticked "reverse" ++ " received an incorrect type for arg " ++ ticked "value" ++
      ": got " ++ ticked found.json ++ " but expected Array|String"
  | .noLength =>
    "Filter " ++ ticked "length" ++
      " was used on a value that isn't an array, an object, or a string."
  | .notAbsolute => "Filter " ++ ticked "abs" ++ " was used on a value that isn't a number."
  | .notConvertible filter => "Filter " ++ ticked filter ++ " received an unexpected type"
  | .roundMethod method =>
    "Filter " ++ ticked "round" ++ " received an incorrect value for arg " ++ ticked "method" ++
      ": got " ++ ticked (Text.quoted method) ++ ", only common, ceil and floor are allowed"
  | .noAttribute name => s!"attribute '{name}' does not reference a field"
  | .notSortable kind => kind ++ " is not a sortable value"
  | .notComparable kind found => "expected " ++ kind ++ " got " ++ found.json
  | .notDistinguishable reason => reason
  | .noEntry key =>
    "Filter " ++ ticked "get" ++ " tried to get key " ++ ticked key ++ " but it wasn't found"
  | .notAnObject => "Filter " ++ ticked "get" ++ " was used on a value that isn't an object"
  | .notText filter found => filter ++ " filter expects a string, got " ++ found.json

/-- Faults of tests. -/
inductive TestFault where
  | someArguments (test : String)
  | manyArguments (test : String) (count max : Nat)
  | undefinedValue (test : String)
  | notANumber (test : String)
  | parameterNotANumber (test : String)
  | notAString (test : String)
  | parameterNotAString (test : String)
  | noContents
  | badPattern (reason : String)

def TestFault.message (fault : TestFault) : String :=
  let tester (name said : String) : String := "Tester " ++ ticked name ++ said
  match fault with
  | .someArguments t => tester t " was called with some args but this test doesn't take args"
  | .manyArguments t count max =>
    tester t s!" was called with {count} args, the max number is {max}"
  | .undefinedValue t => tester t " was called on an undefined variable"
  | .notANumber t => tester t " was called on a variable that isn't a number"
  | .parameterNotANumber t => tester t " was called with a parameter that isn't a number"
  | .notAString t => tester t " was called on a variable that isn't a string"
  | .parameterNotAString t => tester t " was called with a parameter that isn't a string"
  | .noContents => tester "containing" " can only be used on string, array or map"
  | .badPattern reason => tester "matching" (": Invalid regular expression: " ++ reason)

/-- Faults of functions. -/
inductive FunctionFault where
  | noEnd
  | notABound (name shown : String) (found : Data)
  | reversedRange
  | noMessage
  | messageNotText (found : Data)
  | thrown (message : String)

def FunctionFault.message : FunctionFault → String
  | .noEnd =>
    "Function " ++ ticked "range" ++ " was called without a " ++ ticked "end" ++ " argument"
  | .notABound name shown found =>
    "Function " ++ ticked "range" ++ " received " ++ name ++ "=" ++ found.json ++ " but " ++
      ticked shown ++ " can only be a number"
  | .reversedRange =>
    "Function " ++ ticked "range" ++ " was called with a " ++ ticked "start" ++
      " argument greater than the " ++ ticked "end" ++ " one"
  | .noMessage =>
    "Function " ++ ticked "throw" ++ " was called without a " ++ ticked "message" ++ " argument"
  | .messageNotText found =>
    "Function " ++ ticked "throw" ++ " received message=" ++ found.json ++ " but " ++
      ticked "message" ++ " can only be a string"
  | .thrown message => message

/-- Faults of arithmetic and comparison. -/
inductive ArithFault where
  | notNumber (path : String)
  | callNotNumber (function : String)
  | filteredNotNumber
  | text (value : String)
  | bool (value : Bool)
  | concat (shown : String)
  | test (name : String)
  | notATerm
  /-- The result does not fit the integers of the operands. -/
  | overflow (sign : String) (lhs rhs : Int) (range : String)
  | remainderByZero (lhs rhs : Expr)
  | incomparable

def ArithFault.message : ArithFault → String
  | .notNumber path =>
    "Variable " ++ ticked path ++ " was used in a math operation but is not a number"
  | .callNotNumber name =>
    "Function " ++ ticked name ++ " was used in a math operation but is not returning a number"
  | .filteredNotNumber => "Tried to do math with an expression not resulting in a number"
  | .text value => "Tried to do math with a string: " ++ ticked value
  | .bool value => "Tried to do math with a boolean: " ++ ticked (toString value)
  | .concat shown => "Tried to do math with a string concatenation: " ++ shown
  | .test name => "Tried to do math with a test: " ++ name
  | .notATerm => "Tried to do math with something that is no number"
  | .overflow sign lhs rhs range =>
    s!"{lhs} {sign} {rhs} results in an out of bounds {range}"
  | .remainderByZero lhs rhs => "Tried to do a modulo by zero: " ++ lhs.tree ++ "/" ++ rhs.tree
  | .incomparable => "Comparison to NaN"

/-- How the round of a loop ends: with its last node, or before it. -/
inductive Signal where
  | proceed | breakLoop | continueLoop
deriving DecidableEq, Repr

def Signal.describe : Signal → String
  | .proceed => "increment"
  | .breakLoop => "break"
  | .continueLoop => "continue"

/-- What stops a rendering. -/
inductive Fault where
  | unknownVariable (path template : String)
  | unknownPart (path template evaluated : String)
  /-- A step in brackets has no value. -/
  | noStep (path : String) (cause : Fault)
  | notAStep (step path : String)
  | noFallback
  | unknownFilter (name : String)
  | unknownTest (name : String)
  | unknownFunction (name : String)
  | filterCall (name : String) (cause : Fault)
  | testCall (name : String) (cause : Fault)
  | functionCall (name : String) (cause : Fault)
  | filter (fault : FilterFault)
  | test (fault : TestFault)
  | function (fault : FunctionFault)
  | arith (fault : ArithFault)
  /-- The value of an arithmetic term; causes of causes are not told. -/
  | inArith (cause : Fault)
  | callNotBool (function : String)
  | notInText (item : Data)
  | notInObject (item : Data)
  | notAContainer
  | pathNotText (path : String)
  | callNotText (function : String)
  | notALoopContainer (term : Term)
  | notKeyed (container : String)
  | missingKey (container : String)
  | notIterable (container : String)
  | unknownMacroFile (file template : String)
  | unknownMacro (file name template : String)
  | missingMacroArgument (name param : String)
  | missingTemplates (names : List String)
  | noParentBlock
  /-- A loop was to be left or to go on where there is none. -/
  | notInLoop (attempted : Signal)
  | tooDeep

/-- The messages of a fault and its causes, outermost first. -/
def Fault.chain : Fault → List String
  | .unknownVariable path template =>
    ["Variable " ++ ticked path ++ s!" not found in context while rendering '{template}'"]
  | .unknownPart path template evaluated =>
    ["Variable " ++ ticked path ++ s!" not found in context while rendering '{template}'" ++
      ": the evaluated version was " ++ ticked evaluated ++ ". Maybe the index is out of bounds?"]
  | .noStep path cause =>
    [s!"Variable {path} can not be evaluated because: " ++ cause.chain.headD ""]
  | .notAStep step path =>
    ["Only variables evaluating to String or Number can be used as index (" ++ ticked step ++
      " of " ++ ticked path ++ ")"]
  | .noFallback =>
    ["The " ++ ticked "default" ++ " filter requires a " ++ ticked "value" ++ " argument."]
  | .unknownFilter name => [s!"Filter '{name}' not found"]
  | .unknownTest name => [s!"Test '{name}' not found"]
  | .unknownFunction name => [s!"Function '{name}' not found"]
  | .filterCall name cause => s!"Filter call '{name}' failed" :: cause.chain
  | .testCall name cause => s!"Test call '{name}' failed" :: cause.chain
  | .functionCall name cause => s!"Function call '{name}' failed" :: cause.chain
  | .filter fault => [fault.message]
  | .test fault => [fault.message]
  | .function fault => [fault.message]
  | .arith fault => [fault.message]
  | .inArith cause => cause.chain.take 1
  | .callNotBool name =>
    ["Function " ++ ticked name ++ " was used in a logic operation but is not returning a bool"]
  | .notInText item =>
    ["Tried to check if " ++ item.tree ++ " is in a string, but it isn't a string"]
  | .notInObject item =>
    ["Tried to check if " ++ item.tree ++ " is in a object, but it isn't a string"]
  | .notAContainer =>
    ["The " ++ ticked "in" ++ " operator only supports strings, arrays and objects."]
  | .pathNotText path =>
    ["Tried to concat a value that is not a string or a number from ident " ++ path]
  | .callNotText name =>
    ["Tried to concat a value that is not a string or a number from function call " ++ name]
  | .notALoopContainer term =>
    ["Forloop containers have to be an ident or a function call (tried to iterate on '" ++
      term.tree ++ "')"]
  | .notKeyed container =>
    ["Tried to iterate using key value on variable " ++ ticked container ++
      ", but it isn't an object/map"]
  | .missingKey container =>
    ["Tried to iterate using key value on variable " ++ ticked container ++
      ", but it is missing a key"]
  | .notIterable container =>
    ["Tried to iterate on a container (" ++ ticked container ++ ") that has a unsupported type"]
  | .unknownMacroFile file template =>
    ["Macro namespace " ++ ticked file ++ " was not found in template " ++ ticked template ++
      ". Have you maybe forgotten to import it, or misspelled it?"]
  | .unknownMacro file name template =>
    ["Macro " ++ ticked (file ++ "::" ++ name) ++ " not found in template " ++ ticked template]
  | .missingMacroArgument name param =>
    ["Macro " ++ ticked name ++ " is missing the argument " ++ ticked param]
  | .missingTemplates names => ["Template '[" ++ ", ".intercalate names ++ "]' not found"]
  | .noParentBlock => ["Tried to use super() in the top level block"]
  | .notInLoop attempted =>
    ["Attempted " ++ ticked attempted.describe ++ " while not in " ++ ticked "for loop"]
  | .tooDeep => ["Calls are nested too deep"]

/-- A fault, and the macro in whose body the rendering stopped. -/
structure Failure where
  fault : Fault
  call : Option (String × String) := none

/-- The message of a failure that stopped a template. -/
def Failure.message (template : String) (f : Failure) : String :=
  let place := match f.call with
    | some (file, name) => ": error while rendering macro " ++ ticked (file ++ "::" ++ name)
    | none => ""
  ": ".intercalate ((s!"Failed to render '{template}'" ++ place) :: f.fault.chain)

end Schemata.Template
