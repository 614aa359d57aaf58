import Schemata.Disk
import Schemata.Notice

/-!
# Loading

`load` reads files in order. A file that does not decode is skipped and told of; one that cannot
be read, or whose types collide where they must not, stops the load.
-/

namespace Schemata

inductive LoadError where
  | unreadable (path : String) (fault : ReadFault)
  | duplicate (duplicate : DuplicateType)
deriving DecidableEq, Repr

def LoadError.message : LoadError → String
  | .unreadable path fault => s!"cannot read '{path}': {fault.message}"
  | .duplicate d => d.message

/-- The catalog, and the files that were skipped. -/
structure Loaded where
  catalog : Catalog := {}
  diagnostics : List Diagnostic := []
deriving Repr

namespace Loaded

/-- What is told of the types of a file while it is decoded. -/
def typeNotices (path : String) (octets : List UInt8) : List Notice :=
  (decodedTypes path octets).map fun t => .decodedType t.name t.definition.kind

/-- Takes in a file that decodes. -/
def take (loaded : Loaded) (accumulation : Accumulation) (path : String) (catalog : Catalog) :
    Run LoadError Loaded :=
  let absorbed := loaded.catalog.absorb catalog accumulation
  { notices := .decodedFile path catalog.size :: absorbed.redefined.map .redefined
    outcome := match absorbed.stopped with
      | some d => .error (.duplicate d)
      | none => .ok { loaded with catalog := absorbed.catalog } }

/-- Notes a file that does not decode. -/
def skip (loaded : Loaded) (diagnostic : Diagnostic) : Run LoadError Loaded :=
  { notices := [.skippedFile diagnostic]
    outcome := .ok { loaded with diagnostics := loaded.diagnostics ++ [diagnostic] } }

/-- Loads one more file. -/
def addFile (disk : Disk) (accumulation : Accumulation) (loaded : Loaded) (path : String) :
    Run LoadError Loaded := do
  let octets ← Run.ofExcept ((disk path).mapError (.unreadable path))
  Run.tell (typeNotices path octets)
  match decode path octets with
  | .ok catalog => loaded.take accumulation path catalog
  | .error error => loaded.skip { error, source := Text.Utf8.decodeLossy octets }

/-- Loads more files, in order. -/
def addFiles (disk : Disk) (accumulation : Accumulation) :
    Loaded → List String → Run LoadError Loaded
  | loaded, [] => pure loaded
  | loaded, path :: rest => do
    addFiles disk accumulation (← loaded.addFile disk accumulation path) rest

end Loaded

/-- Loads files in order. -/
def load (disk : Disk) (accumulation : Accumulation) (paths : List String) :
    Run LoadError Loaded := do
  let loaded ← Loaded.addFiles disk accumulation {} paths
  Run.tell [.loaded loaded.catalog.size loaded.diagnostics.length]
  return loaded

end Schemata
