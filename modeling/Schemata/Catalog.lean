import Schemata.Definition

/-!
# Catalogs

A catalog lists the declared types in order. `Catalog.absorb` takes in the types of one more
file, under a policy that says what happens to the types already there.
-/

namespace Schemata

/-- What a merge does about a name that is declared already. -/
inductive Collision where
  /-- The merge stops. -/
  | error
  /-- The later definition takes the place of the earlier one. -/
  | override
deriving DecidableEq, Repr, Inhabited

/-- How the types of successive files combine. -/
inductive Accumulation where
  /-- Each file replaces the whole catalog. -/
  | replace
  /-- The types of every file are kept, in order. -/
  | merge (collision : Collision)
deriving DecidableEq, Repr, Inhabited

structure Catalog where
  entries : List TypeDefinition := []
deriving Repr, Inhabited

/-- A name declared in two places where only one is allowed. -/
structure DuplicateType where
  name : String
  first : String
  second : String
deriving DecidableEq, Repr

def DuplicateType.message (d : DuplicateType) : String :=
  s!"type '{d.name}' is declared in both '{d.first}' and '{d.second}'"

/-- A definition that took the place of an earlier one. -/
structure Redefinition where
  name : String
  first : String
  second : String
deriving DecidableEq, Repr

/-- What came of taking types in: the catalog then, the definitions replaced on the way, and the
name that stopped it. -/
structure Absorbed where
  catalog : Catalog
  redefined : List Redefinition := []
  stopped : Option DuplicateType := none
deriving Repr

namespace Catalog

def size (c : Catalog) : Nat := c.entries.length

def isEmpty (c : Catalog) : Bool := c.entries.isEmpty

def names (c : Catalog) : List String := c.entries.map (·.name)

/-- The first definition of a name. -/
def get? (c : Catalog) (name : String) : Option TypeDefinition :=
  c.entries.find? (·.name == name)

/-- Puts a definition in the place of the first one of its name. -/
def replaceFirst (t : TypeDefinition) : List TypeDefinition → List TypeDefinition
  | [] => []
  | e :: rest => if e.name == t.name then t :: rest else e :: replaceFirst t rest

/-- Takes in definitions one by one. -/
def mergeEntries (collision : Collision) (c : Catalog) : List TypeDefinition → Absorbed
  | [] => { catalog := c }
  | t :: rest =>
    match c.get? t.name with
    | none => mergeEntries collision { entries := c.entries ++ [t] } rest
    | some existing =>
      match collision with
      | .error =>
        { catalog := c,
          stopped := some { name := t.name, first := existing.source, second := t.source } }
      | .override =>
        let merged := mergeEntries collision { entries := replaceFirst t c.entries } rest
        { merged with
          redefined :=
            { name := t.name, first := existing.source, second := t.source } ::
              merged.redefined }

/-- Takes in the types of one more file. -/
def absorb (c incoming : Catalog) : Accumulation → Absorbed
  | .replace => { catalog := incoming }
  | .merge collision => mergeEntries collision c incoming.entries

def data (c : Catalog) : Data := .list (c.entries.map (·.data))

/-! ## Names -/

theorem get?_eq_none_iff {c : Catalog} {name : String} : c.get? name = none ↔ name ∉ c.names := by
  simp [get?, names]

theorem name_of_get? {c : Catalog} {name : String} {t : TypeDefinition}
    (h : c.get? name = some t) : t.name = name := by
  simpa using List.find?_some h

@[simp] theorem names_append (xs ys : List TypeDefinition) :
    names ⟨xs ++ ys⟩ = names ⟨xs⟩ ++ names ⟨ys⟩ := by
  simp [names]

@[simp] theorem names_replaceFirst (t : TypeDefinition) (entries : List TypeDefinition) :
    names ⟨replaceFirst t entries⟩ = names ⟨entries⟩ := by
  induction entries with
  | nil => rfl
  | cons e rest ih =>
    by_cases h : e.name = t.name
    · simp [replaceFirst, names, h]
    · simpa [replaceFirst, names, h] using ih

end Catalog

end Schemata
