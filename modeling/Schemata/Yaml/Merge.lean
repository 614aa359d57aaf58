import Schemata.Yaml.Value

/-!
# Merge keys

The entry under the key `<<` of a mapping names mappings whose entries are merged into it.
`Value.expand` replaces each such entry by what it names: the merged entries come first, in the
order of their sources, and an earlier source wins over a later one; the mapping's own entries
win over both.
-/

namespace Schemata.Yaml

/-- The key whose value is merged into its mapping. -/
def mergeKey : String := "<<"

namespace Entries

/-- Adds the entries of a source whose keys are not there yet. -/
def addMissing (target source : List (Value × Value)) : List (Value × Value) :=
  source.foldl (fun acc e => if contains acc e.1 then acc else acc ++ [e]) target

/-- Whether the entry is one to be merged: its key is the merge key once tags are removed. -/
def isMerge (e : Value × Value) : Bool := e.1.text? == some mergeKey

/-- Adds the mappings of a list of sources; fails with the kind of the first that is none. -/
def addSources : List (Value × Value) → List Value → Except Kind (List (Value × Value))
  | acc, [] => .ok acc
  | acc, .map source :: rest => addSources (addMissing acc source) rest
  | _, other :: _ => .error other.kind

/-- Adds what a merge entry names: a mapping, or a list of mappings. -/
def addMerged (acc : List (Value × Value)) : Value → Except Kind (List (Value × Value))
  | .map source => .ok (addMissing acc source)
  | .seq sources => addSources acc sources
  | other => .error other.kind

/-- The entries that the merge entries name. -/
def mergedOf : List (Value × Value) → List (Value × Value) → Except Kind (List (Value × Value))
  | acc, [] => .ok acc
  | acc, e :: rest =>
    if isMerge e then do mergedOf (← addMerged acc e.2) rest else mergedOf acc rest

/-- Merges the merge entries of a mapping into it, if it has the plain merge key. -/
def merge (entries : List (Value × Value)) : Except Kind (List (Value × Value)) := do
  if contains entries (.string mergeKey) then
    let merged ← mergedOf [] entries
    return (entries.filter (!isMerge ·)).foldl (fun acc e => insert acc e.1 e.2) merged
  else return entries

end Entries

namespace Value

mutual

/-- Expands every merge key in a value, children before their mapping. Fails with the kind of
the first value under a merge key that names no mapping. -/
def expand : Value → Except Kind Value
  | .seq items => .seq <$> expandItems items
  | .tagged tag v => .tagged tag <$> v.expand
  | .map entries => do return .map (← Entries.merge (← expandEntries entries))
  | v => .ok v

def expandItems : List Value → Except Kind (List Value)
  | [] => .ok []
  | v :: rest => do
    let v ← v.expand
    return v :: (← expandItems rest)

/-- Keys are left as they are. -/
def expandEntries : List (Value × Value) → Except Kind (List (Value × Value))
  | [] => .ok []
  | (k, v) :: rest => do
    let v ← v.expand
    return (k, v) :: (← expandEntries rest)

end

end Value

end Schemata.Yaml
