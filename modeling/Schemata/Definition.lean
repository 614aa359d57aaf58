import Schemata.Data

/-!
# Definitions

What a type name is declared as. The payload is not interpreted; only its shape is told apart, so
that a template can ask for fields by name or in order.
-/

namespace Schemata

inductive Definition where
  /-- The fields and their payloads in document order. -/
  | mapping (fields : List (String × Data))
  | sequence (items : List Data)
  | scalar (value : Data)
deriving Repr, Inhabited

/-- Why a payload is no definition. -/
inductive DefinitionError where
  | fieldName (found : Yaml.Kind)
  | payload (fault : KeyFault)
deriving DecidableEq, Repr

def DefinitionError.message : DefinitionError → String
  | .fieldName found => "field names must be scalars, found " ++ found.describe
  | .payload fault => "payload cannot be represented as template data: " ++ fault.message

namespace Definition

/-- The field name that a key spells. -/
def fieldName : Yaml.Value → Except DefinitionError String
  | .string s => .ok s
  | .number n => .ok (n.write .document)
  | .bool b => .ok (toString b)
  | other => .error (.fieldName other.kind)

def payload (v : Yaml.Value) : Except DefinitionError Data :=
  (Data.ofValue v).mapError .payload

/-- The fields of a mapping, the name of each before its payload. -/
def fieldsOf : List (Yaml.Value × Yaml.Value) → Except DefinitionError (List (String × Data))
  | [] => .ok []
  | (k, v) :: rest => do
    let name ← fieldName k
    let d ← payload v
    return (name, d) :: (← fieldsOf rest)

/-- The definition that a document value declares. -/
def ofValue : Yaml.Value → Except DefinitionError Definition
  | .map entries => .mapping <$> fieldsOf entries
  | .seq items => .sequence <$> (Data.ofItems items).mapError .payload
  | other => .scalar <$> payload other

/-- The shape, as templates see it. -/
def kind : Definition → String
  | .mapping _ => "mapping"
  | .sequence _ => "sequence"
  | .scalar _ => "scalar"

def fieldNames : Definition → List String
  | .mapping fields => fields.map (·.1)
  | _ => []

/-- The payload as template data; fields whose names have the same text become one. -/
def data : Definition → Data
  | .mapping fields => .object (Fields.ofList fields)
  | .sequence items => .list items
  | .scalar value => value

end Definition

/-- A declared type: its name, its definition, and the file that declares it. -/
structure TypeDefinition where
  name : String
  definition : Definition
  source : String
deriving Repr, Inhabited

/-- A declared type as templates see it. -/
def TypeDefinition.data (t : TypeDefinition) : Data :=
  .object [("name", .string t.name), ("kind", .string t.definition.kind),
    ("fields", t.definition.data), ("source", .string t.source)]

end Schemata
