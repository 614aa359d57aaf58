import Schemata.Text.Quoted
import Schemata.Yaml.Mark
import Schemata.Yaml.Problem
import Schemata.Yaml.Value

/-!
# Errors of reading a document

`Error.message` words an error, and `Error.index` is the offset it is reported at, if it has one.
-/

namespace Schemata.Yaml

/-- A step from a value to one of its parts. -/
inductive Step where
  | item (index : Nat)
  | field (key : String)
  /-- The value of a key that is no scalar. -/
  | unnamed
deriving Repr

/-- Where in the document a value stands, outermost step first; the root is a point. -/
def describePath (path : List Step) : String :=
  (path.foldl (fun above step => some (extend above step)) none).getD "."
where
  /-- The path that a step makes from the one above it; the root above is `none`. -/
  extend (above : Option String) : Step → String
    | .item i => above.getD "." ++ s!"[{i}]"
    | .field key => qualify above ++ key
    | .unnamed => qualify above ++ "?"
  qualify (above : Option String) : String := (above.map (· ++ ".")).getD ""

/-- The types that a tag can demand of a scalar. -/
inductive Demand where
  | boolean | integer | float | null
deriving DecidableEq, Repr

def Demand.describe : Demand → String
  | .boolean => "a boolean"
  | .integer => "an integer"
  | .float => "a float"
  | .null => "null"

/-- Why the value of a well-formed document is refused. -/
inductive Refusal where
  /-- An integer beyond sixty-four bits that fits into a hundred and twenty-eight. -/
  | outOfRange (value : Int)
  /-- A scalar that is not of the type its tag demands. -/
  | notA (text : String) (demand : Demand)
  | duplicateKey (key : Value)
deriving Repr

/-- Names a key as messages about duplicates do. -/
def Value.describeKey : Value → String
  | .null => "with null key"
  | .bool b => s!"with key `{b}`"
  | .number n => "with key " ++ n.write .document
  | .string s => "with key " ++ Text.quoted s
  | _ => "in YAML map"

def Refusal.message : Refusal → String
  | .outOfRange value =>
    let width := if value < 0 then "i128" else "u128"
    s!"invalid type: integer `{value}` as {width}, expected any YAML value"
  | .notA text demand =>
    s!"invalid value: string {Text.quoted text}, expected {demand.describe}"
  | .duplicateKey key => "duplicate entry " ++ key.describeKey

/-- Why octets are no single document. -/
inductive Error where
  | unreadable (problem : Unreadable) (offset : Nat)
  | malformed (problem : Problem) (spot : Mark) (context : Option (Activity × Mark))
  | unknownAnchor (spot : Mark)
  | tooDeep (spot : Mark)
  | tooManyAliases
  | severalDocuments
  | refused (reason : Refusal) (path : List Step) (spot : Mark)
deriving Repr

namespace Error

/-- The position, where it tells the reader something. -/
def locate (m : Mark) : String :=
  if m.isOrigin then "" else " at " ++ m.describe

def message : Error → String
  | .unreadable problem offset =>
    problem.text ++ if offset = 0 then "" else s!" at position {offset}"
  | .malformed problem spot none => problem.text ++ locate spot
  | .malformed problem spot (some (activity, since)) =>
    let start :=
      if since.line == spot.line && since.column == spot.column then "" else locate since
    problem.text ++ locate spot ++ ", " ++ activity.text ++ start
  | .unknownAnchor spot => "unknown anchor" ++ locate spot
  | .tooDeep spot => "recursion limit exceeded" ++ locate spot
  | .tooManyAliases => "repetition limit exceeded"
  | .severalDocuments =>
    "deserializing from YAML containing more than one document is not supported"
  | .refused reason path spot =>
    let place := describePath path
    (if place = "." then "" else place ++ ": ") ++ reason.message ++ locate spot

def index : Error → Option Nat
  | .unreadable .. => some 0
  | .malformed _ spot _ => some spot.index
  | .unknownAnchor spot => some spot.index
  | .tooDeep spot => some spot.index
  | .tooManyAliases => none
  | .severalDocuments => none
  | .refused _ _ spot => some spot.index

end Error

end Schemata.Yaml
