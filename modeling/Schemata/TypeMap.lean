/-!
# Type maps

A type map gives the target spelling of schema type names. Names it does not hold stand for
themselves.
-/

namespace Schemata

/-- A table of target spellings by type name. Of entries with one name the first counts. -/
structure TypeMap where
  name : Option String := none
  description : Option String := none
  entries : List (String × String) := []
deriving DecidableEq, Repr, Inhabited

namespace TypeMap

/-- The entries of the map for fixed-width C types. -/
def fixedWidthEntries : List (String × String) :=
  [("int", "int32_t"), ("int8", "int8_t"), ("int16", "int16_t"), ("int32", "int32_t"),
    ("int64", "int64_t"), ("uint", "uint32_t"), ("uint8", "uint8_t"), ("uint16", "uint16_t"),
    ("uint32", "uint32_t"), ("uint64", "uint64_t"), ("float", "float"), ("float32", "float"),
    ("double", "double"), ("float64", "double"), ("bool", "bool"), ("char", "char"),
    ("byte", "uint8_t")]

/-- The map in use when no other is given. -/
def fixedWidth : TypeMap := { name := some "c-fixed-width", entries := fixedWidthEntries }

/-- The map without entries. -/
def empty : TypeMap := {}

def get? (m : TypeMap) (token : String) : Option String := m.entries.lookup token

/-- The target spelling of a name, or the name itself. -/
def resolve (m : TypeMap) (token : String) : String := (m.get? token).getD token

/-- Sets the entry of a name: in place when the name is there, else at the end. -/
def insertEntry : List (String × String) → String → String → List (String × String)
  | [], token, target => [(token, target)]
  | (t, u) :: rest, token, target =>
    if t == token then (token, target) :: rest else (t, u) :: insertEntry rest token target

theorem lookup_insertEntry (entries : List (String × String)) (token target other : String) :
    (insertEntry entries token target).lookup other =
      if other = token then some target else entries.lookup other := by
  induction entries with
  | nil =>
    by_cases h : other = token
    · simp [insertEntry, h]
    · simp [insertEntry, List.lookup_cons, beq_false_of_ne h, h]
  | cons e rest ih =>
    obtain ⟨t, u⟩ := e
    by_cases ht : t = token
    · subst ht
      by_cases h : other = t
      · simp [insertEntry, h]
      · simp [insertEntry, List.lookup_cons, beq_false_of_ne h, h]
    · by_cases h : other = t
      · subst h
        simp [insertEntry, ht]
      · simp [insertEntry, List.lookup_cons, beq_false_of_ne h, ht, ih]

/-- Lays entries over those of a map. -/
def overlay (m : TypeMap) (entries : List (String × String)) : TypeMap :=
  { m with entries := entries.foldl (fun acc e => insertEntry acc e.1 e.2) m.entries }

def size (m : TypeMap) : Nat := m.entries.length

def isEmpty (m : TypeMap) : Bool := m.entries.isEmpty

end TypeMap

end Schemata
