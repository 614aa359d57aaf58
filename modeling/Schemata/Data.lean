import Schemata.Yaml.Value

/-!
# Template data

`Data` is what templates see: the shapes of JSON, with object entries in order. Document values
become data by `Data.ofValue`: keys turn into text, numbers that are not finite into null, and a
value under a tag into an object with one entry.
-/

namespace Schemata

inductive Data where
  | null
  | bool (value : Bool)
  | number (value : Number)
  | string (value : String)
  | list (items : List Data)
  | object (entries : List (String × Data))
deriving Repr, Inhabited

/-- Entries in order, each name at most once. -/
abbrev Fields := List (String × Data)

namespace Fields

def get? (fields : Fields) (name : String) : Option Data := fields.lookup name

/-- Sets an entry: in place when the name is there, else at the end. -/
def insert : Fields → String → Data → Fields
  | [], name, value => [(name, value)]
  | (n, v) :: rest, name, value =>
    if n == name then (name, value) :: rest else (n, v) :: insert rest name value

/-- Of entries with one name the last value counts, at the place of the first. -/
def ofList (entries : List (String × Data)) : Fields :=
  entries.foldl (fun acc e => insert acc e.1 e.2) []

end Fields

/-- Why a key of a mapping cannot be the name of an object's entry. -/
inductive KeyFault where
  | notText
  | notFinite
deriving DecidableEq, Repr

def KeyFault.message : KeyFault → String
  | .notText => "key must be a string"
  | .notFinite => "float key must be finite (got NaN or +/-inf)"

namespace Data

/-- The name that a key becomes inside an object. -/
def nameOf : Yaml.Value → Except KeyFault String
  | .string s => .ok s
  | .bool b => .ok (toString b)
  | .number n => if n.isFinite then .ok (n.write .data) else .error .notFinite
  | _ => .error .notText

def ofNumber (n : Number) : Data := if n.isFinite then .number n else .null

mutual

/-- The template data of a document value. -/
def ofValue : Yaml.Value → Except KeyFault Data
  | .null => .ok .null
  | .bool b => .ok (.bool b)
  | .number n => .ok (ofNumber n)
  | .string s => .ok (.string s)
  | .seq items => .list <$> ofItems items
  | .map entries => do return .object (Fields.ofList (← ofEntries entries))
  | .tagged tag v => do return .object [("!" ++ tag, ← ofValue v)]

def ofItems : List Yaml.Value → Except KeyFault (List Data)
  | [] => .ok []
  | v :: rest => do
    let d ← ofValue v
    return d :: (← ofItems rest)

/-- The entries of a mapping, the key of each before its value. -/
def ofEntries : List (Yaml.Value × Yaml.Value) → Except KeyFault (List (String × Data))
  | [] => .ok []
  | (k, v) :: rest => do
    let name ← nameOf k
    let d ← ofValue v
    return (name, d) :: (← ofEntries rest)

end

end Data

end Schemata
