import Schemata.Disk
import Schemata.Toml.Problem
import Schemata.TypeMap

/-!
# Type map files

A type map file is a TOML document with two tables, both optional: `metadata` tells the name of
the map and a description, `types` the target spellings. The entries are laid over those of the
map for fixed-width types; everything else in the document is passed over.
-/

namespace Schemata

open Toml

namespace TypeMap

/-! ## Items -/

/-- How an item is described where another was expected. -/
def describe : Item → String
  | .string _ s => "string " ++ Text.quoted s
  | .integer _ i => s!"integer \x60{i}\x60"
  | .float _ d => "floating point \x60" ++ d.write .quoted ++ "\x60"
  | .boolean _ b => s!"boolean \x60{b}\x60"
  | .array .. | .tables _ => "sequence"
  | .moment .. | .inline .. | .table .. => "map"

/-- Refuses an item. One that does not stand in one piece is shown by its key. -/
def refuse (span : Span) (item : Item) (expected : String) : Except Problem α :=
  .error
    { span := item.span?.getD span, complaint := .wrongKind (describe item) expected }

/-- The text of an item. -/
def text (span : Span) : Item → Except Problem String
  | .string _ s => .ok s
  | item => refuse span item "a string"

/-! ## The tables -/

/-- The name of the map and its description. -/
abbrev Metadata := Option String × Option String

/-- The metadata that the entries of a table tell. -/
def metadataOf : Entries → Metadata → Except Problem Metadata
  | [], found => .ok found
  | (key, item) :: rest, (name, description) => do
    if key.text == "name" then metadataOf rest (some (← text key.span item), description)
    else if key.text == "description" then
      metadataOf rest (name, some (← text key.span item))
    else metadataOf rest (name, description)

/-- The metadata that a list tells: the name and the description, in this order. -/
def metadataOfList (span : Span) : List Item → Except Problem Metadata
  | [] => .error { span, complaint := .wrongLength 0 "struct MapMetadata with 2 elements" }
  | [name] => do
    discard (text span name)
    .error { span, complaint := .wrongLength 1 "struct MapMetadata with 2 elements" }
  | name :: description :: _ => do
    let name ← text span name
    return (some name, some (← text span description))

def metadata (key : Key) (item : Item) : Except Problem Metadata :=
  match item with
  | .inline _ entries | .table _ _ entries => metadataOf entries (none, none)
  | .array span items => metadataOfList span items
  | .tables elements => metadataOfList (item.span?.getD key.span) elements
  | .moment .. => .ok (none, none)
  | item => refuse key.span item "struct MapMetadata"

/-- The name under which a date or a time counts as a table of one entry. -/
def momentKey : String := "$__toml_private_datetime"

/-- The target spellings that a table tells. -/
def targets (key : Key) (item : Item) : Except Problem (List (String × String)) :=
  match item with
  | .inline _ entries | .table _ _ entries =>
    entries.mapM fun (k, item) => do return (k.text, ← text k.span item)
  | .moment _ s => .ok [(momentKey, s)]
  | item => refuse key.span item "a map"

/-- The metadata and the target spellings of a document. -/
def contents : Entries → Metadata × List (String × String) →
    Except Problem (Metadata × List (String × String))
  | [], found => .ok found
  | (key, item) :: rest, (told, types) => do
    if key.text == "metadata" then contents rest (← metadata key item, types)
    else if key.text == "types" then contents rest (told, ← targets key item)
    else contents rest (told, types)

/-- The type map of a document. -/
def ofToml (source : String) : Except Problem TypeMap := do
  let ((name, description), types) ← contents (← Toml.read source) ((none, none), [])
  return { fixedWidth.overlay types with name, description }

end TypeMap

/-- Why there is no type map. -/
inductive TypeMapError where
  | unreadable (fault : ReadFault)
  | malformed (source : String) (problem : Toml.Problem)
deriving Repr

def TypeMapError.message : TypeMapError → String
  | .unreadable fault => "cannot read type map: " ++ fault.message
  | .malformed source problem => "invalid type map: " ++ problem.message source

namespace TypeMap

/-- The type map that a text describes. -/
def ofText (source : String) : Except TypeMapError TypeMap :=
  (ofToml source).mapError (.malformed source)

/-- The type map of a file. -/
def ofFile (disk : Disk) (path : String) : Except TypeMapError TypeMap := do
  ofText (← (disk.readText path).mapError .unreadable)

end TypeMap

end Schemata
