import Schemata.Catalog
import Schemata.Text.Letter
import Schemata.Yaml.Document
import Schemata.Yaml.Merge
import Schemata.Yaml.Printer

/-!
# Schema files

A schema file is one document: a mapping from type names to their definitions. `decode` answers
all of its types or the first fault; no file is taken in by half.
-/

namespace Schemata

/-- Why a file declares no types. -/
inductive DecodeFault where
  | malformed (error : Yaml.Error)
  | empty
  | notAMapping (found : Yaml.Kind)
  /-- Something under a merge key that is neither a mapping nor a list of mappings. -/
  | mergeKey (found : Yaml.Kind)
  | nameNotString (key : Yaml.Value)
  | definition (name : String) (error : DefinitionError)
deriving Repr

structure DecodeError where
  path : String
  fault : DecodeFault
deriving Repr

namespace DecodeFault

/-- A key as messages show it: printed, or by its kind where it has no printed form. -/
def showKey (key : Yaml.Value) : String :=
  (key.print?.map Text.trimEnd).getD key.kind.describe

def message : DecodeFault → String
  | .malformed e => "invalid YAML: " ++ e.message
  | .empty => "document is empty"
  | .notAMapping found =>
    "top level must be a mapping of type names, found " ++ found.describe
  | .mergeKey found =>
    "merge key '<<' must name a mapping or a list of mappings, found " ++ found.describe
  | .nameNotString key => "type names must be strings, found " ++ showKey key
  | .definition name error => s!"type '{name}': {error.message}"

end DecodeFault

namespace DecodeError

def message (e : DecodeError) : String := e.path ++ ": " ++ e.fault.message

/-- The offset of the character at fault and the one after it, if the place is known. -/
def span (e : DecodeError) : Option (Nat × Nat) :=
  match e.fault with
  | .malformed error => error.index.map fun i => (i, i + 1)
  | _ => none

/-- What the mark in a report says. -/
def label (e : DecodeError) : String :=
  match e.fault with
  | .malformed error => error.message
  | _ => e.message

end DecodeError

/-! ## Decoding -/

def isAsciiBlank (octet : UInt8) : Bool :=
  octet == 0x20 || octet == 0x09 || octet == 0x0A || octet == 0x0C || octet == 0x0D

/-- The entries of the top-level mapping of a file. -/
def declarations (octets : List UInt8) :
    Except DecodeFault (List (Yaml.Value × Yaml.Value)) := do
  if octets.all isAsciiBlank then throw .empty
  let document ← (Yaml.Value.ofOctets octets).mapError .malformed
  match ← document.expand.mapError .mergeKey with
  | .map entries => return entries
  | .null => throw .empty
  | other => throw (.notAMapping other.kind)

/-- The types that entries declare, in their order. -/
def typesOf (path : String) :
    List (Yaml.Value × Yaml.Value) → Except DecodeFault (List TypeDefinition)
  | [] => .ok []
  | (.string name, payload) :: rest => do
    let definition ← (Definition.ofValue payload).mapError (.definition name)
    return { name, definition, source := path } :: (← typesOf path rest)
  | (key, _) :: _ => .error (.nameNotString key)

/-- The types that entries declare up to the first fault. -/
def typesBeforeFault (path : String) : List (Yaml.Value × Yaml.Value) → List TypeDefinition
  | (.string name, payload) :: rest =>
    match Definition.ofValue payload with
    | .ok definition => { name, definition, source := path } :: typesBeforeFault path rest
    | .error _ => []
  | _ => []

/-- The types of a file that were decoded by the time it was taken or refused. -/
def decodedTypes (path : String) (octets : List UInt8) : List TypeDefinition :=
  match declarations octets with
  | .ok entries => typesBeforeFault path entries
  | .error _ => []

/-- The types that a file declares, in document order once merge keys are expanded. -/
def decode (path : String) (octets : List UInt8) : Except DecodeError Catalog := do
  let types ← ((declarations octets).bind (typesOf path)).mapError fun fault => { path, fault }
  return { entries := types }

end Schemata
