import Schemata.Proofs.Yaml.Key

/-!
# What is reached in a value

`Value.Reaches` goes from a value through items, tags and the values of mappings, and not into keys.
`Value.mappings` lists the mappings that are reached, each behind those below it
(`Value.mem_mappings_iff`), and `Value.keys` their keys in document order (`Value.mem_keys_iff`).
-/

namespace Schemata.Yaml.Value

/-- A value is reached from itself and from whatever holds it, except as a key. -/
inductive Reaches : Value → Value → Prop where
  | refl (v : Value) : Reaches v v
  | item {items : List Value} {v w : Value} (h : v ∈ items) (below : Reaches v w) :
      Reaches (.seq items) w
  | tagged {tag : String} {v w : Value} (below : Reaches v w) : Reaches (.tagged tag v) w
  | entry {entries : List (Value × Value)} {e : Value × Value} {w : Value} (h : e ∈ entries)
      (below : Reaches e.2 w) : Reaches (.map entries) w

mutual

/-- The mappings reached, in post-order: what is in the values of a mapping comes before it. -/
def mappings : Value → List (List (Value × Value))
  | .seq items => mappingsOfItems items
  | .tagged _ v => v.mappings
  | .map entries => mappingsOfEntries entries ++ [entries]
  | _ => []

def mappingsOfItems : List Value → List (List (Value × Value))
  | [] => []
  | v :: rest => v.mappings ++ mappingsOfItems rest

def mappingsOfEntries : List (Value × Value) → List (List (Value × Value))
  | [] => []
  | (_, v) :: rest => v.mappings ++ mappingsOfEntries rest

end

mutual

/-- The keys of the mappings reached, in document order: each before what is in its value. -/
def keys : Value → List Value
  | .seq items => keysOfItems items
  | .tagged _ v => v.keys
  | .map entries => keysOfEntries entries
  | _ => []

def keysOfItems : List Value → List Value
  | [] => []
  | v :: rest => v.keys ++ keysOfItems rest

def keysOfEntries : List (Value × Value) → List Value
  | [] => []
  | (k, v) :: rest => k :: (v.keys ++ keysOfEntries rest)

end

/-- What a value holds at first hand, keys left out. -/
def parts : Value → List Value
  | .seq items => items
  | .tagged _ v => [v]
  | .map entries => entries.map (·.2)
  | _ => []

/-- A mapping is strictly inside a value. -/
def Inside (v : Value) (source : List (Value × Value)) : Prop :=
  ∃ u ∈ v.parts, Reaches u (.map source)

variable {v w : Value} {items : List Value} {entries source : List (Value × Value)} {tag : String}

theorem Reaches.trans {u : Value} (h : Reaches v w) (hu : Reaches w u) : Reaches v u := by
  induction h with
  | refl => exact hu
  | item h _ ih => exact .item h (ih hu)
  | tagged _ ih => exact .tagged (ih hu)
  | entry h _ ih => exact .entry h (ih hu)

/-- What is reached in a well-formed value is well-formed. -/
theorem WellFormed.of_reaches (h : v.WellFormed) (r : Reaches v w) : w.WellFormed := by
  induction r with
  | refl => exact h
  | item hv _ ih => exact ih (wellFormedItems_iff.mp h _ hv)
  | tagged _ ih => exact ih h
  | entry he _ ih => exact ih (wellFormedEntries_iff.mp h.2 _ he)

theorem StringKeys.of_reaches (h : v.StringKeys) (r : Reaches v w) : w.StringKeys := by
  induction r with
  | refl => exact h
  | item hv _ ih => exact ih (stringKeysItems_iff.mp h _ hv)
  | tagged _ ih => exact ih h
  | entry he _ ih => exact ih (stringKeysEntries_iff.mp h _ he).2

theorem reaches_seq_map_iff :
    Reaches (.seq items) (.map source) ↔ ∃ v ∈ items, Reaches v (.map source) := by
  constructor
  · intro h
    cases h with
    | item h below => exact ⟨_, h, below⟩
  · rintro ⟨v, h, below⟩
    exact .item h below

theorem reaches_tagged_map_iff :
    Reaches (.tagged tag v) (.map source) ↔ Reaches v (.map source) := by
  constructor
  · intro h
    cases h with
    | tagged below => exact below
  · exact .tagged

theorem reaches_map_map_iff :
    Reaches (.map entries) (.map source) ↔
      source = entries ∨ ∃ e ∈ entries, Reaches e.2 (.map source) := by
  constructor
  · intro h
    cases h with
    | refl => exact .inl rfl
    | entry h below => exact .inr ⟨_, h, below⟩
  · rintro (rfl | ⟨e, h, below⟩)
    · exact .refl _
    · exact .entry h below

mutual

/-- The list has exactly the mappings that are reached. -/
theorem mem_mappings_iff : ∀ {v : Value}, source ∈ v.mappings ↔ Reaches v (.map source)
  | .seq items => by
    rw [mappings, reaches_seq_map_iff]
    exact mem_mappingsOfItems_iff
  | .tagged tag v => by
    rw [mappings, reaches_tagged_map_iff]
    exact mem_mappings_iff
  | .map entries => by
    rw [mappings, List.mem_append, List.mem_singleton, reaches_map_map_iff, or_comm]
    exact or_congr_right mem_mappingsOfEntries_iff
  | .null | .bool _ | .number _ | .string _ => iff_of_false nofun nofun

theorem mem_mappingsOfItems_iff : ∀ {items : List Value},
    source ∈ mappingsOfItems items ↔ ∃ v ∈ items, Reaches v (.map source)
  | [] => by simp [mappingsOfItems]
  | v :: rest => by
    rw [mappingsOfItems, List.mem_append, mem_mappings_iff, mem_mappingsOfItems_iff]
    simp only [List.mem_cons, exists_eq_or_imp]

theorem mem_mappingsOfEntries_iff : ∀ {entries : List (Value × Value)},
    source ∈ mappingsOfEntries entries ↔ ∃ e ∈ entries, Reaches e.2 (.map source)
  | [] => by simp [mappingsOfEntries]
  | (k, v) :: rest => by
    rw [mappingsOfEntries, List.mem_append, mem_mappings_iff, mem_mappingsOfEntries_iff]
    simp only [List.mem_cons, exists_eq_or_imp]

end

theorem reaches_map_iff : Reaches v (.map source) ↔ v = .map source ∨ v.Inside source := by
  constructor
  · intro h
    cases h with
    | refl => exact .inl rfl
    | item hv below => exact .inr ⟨_, hv, below⟩
    | tagged below => exact .inr ⟨_, List.mem_singleton_self _, below⟩
    | entry he below => exact .inr ⟨_, List.mem_map_of_mem he, below⟩
  · rintro (rfl | ⟨u, hu, below⟩)
    · exact .refl _
    · cases v with
      | seq items => exact .item hu below
      | tagged tag v =>
        rw [List.mem_singleton.mp hu] at below
        exact .tagged below
      | map entries =>
        obtain ⟨e, he, rfl⟩ := List.mem_map.mp hu
        exact .entry he below
      | _ => cases hu

mutual

theorem mem_keys_iff_mappings {key : Value} : ∀ {v : Value},
    key ∈ v.keys ↔ ∃ source ∈ v.mappings, key ∈ source.map (·.1)
  | .seq items => by
    rw [keys, mappings]
    exact mem_keysOfItems_iff_mappings
  | .tagged tag v => by
    rw [keys, mappings]
    exact mem_keys_iff_mappings
  | .map entries => by
    rw [keys, mappings, mem_keysOfEntries_iff_mappings]
    simp only [List.mem_append, List.mem_singleton, or_and_right, exists_or, exists_eq_left]
    exact or_comm
  | .null | .bool _ | .number _ | .string _ => by simp [keys, mappings]

theorem mem_keysOfItems_iff_mappings {key : Value} : ∀ {items : List Value},
    key ∈ keysOfItems items ↔ ∃ source ∈ mappingsOfItems items, key ∈ source.map (·.1)
  | [] => by simp [keysOfItems, mappingsOfItems]
  | v :: rest => by
    rw [keysOfItems, mappingsOfItems, List.mem_append, mem_keys_iff_mappings,
      mem_keysOfItems_iff_mappings]
    simp only [List.mem_append, or_and_right, exists_or]

theorem mem_keysOfEntries_iff_mappings {key : Value} : ∀ {entries : List (Value × Value)},
    key ∈ keysOfEntries entries ↔
      key ∈ entries.map (·.1) ∨ ∃ source ∈ mappingsOfEntries entries, key ∈ source.map (·.1)
  | [] => by simp [keysOfEntries, mappingsOfEntries]
  | (k, v) :: rest => by
    rw [keysOfEntries, mappingsOfEntries, List.mem_cons, List.mem_append, mem_keys_iff_mappings,
      mem_keysOfEntries_iff_mappings]
    simp only [List.map_cons, List.mem_cons, List.mem_append, or_and_right, exists_or]
    rw [or_assoc]
    exact or_congr_right or_left_comm

end

/-- The list has exactly the keys of the mappings that are reached. -/
theorem mem_keys_iff {key : Value} :
    key ∈ v.keys ↔ ∃ source, Reaches v (.map source) ∧ key ∈ source.map (·.1) := by
  simp only [mem_keys_iff_mappings, mem_mappings_iff]

end Schemata.Yaml.Value
