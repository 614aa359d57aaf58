import Schemata.Proofs.Yaml.Merge

/-!
# What stands wrongly under a merge key

Under a merge key stands a mapping or a list of mappings (`Entries.NamesMappings`). `Value.faults`
lists what is found there instead, in the order in which the mappings are merged, and expansion
fails with the first of it (`Value.expand_refused`). The list is read off the value as it was
written, although a mapping is looked at when its values are expanded already: expansion keeps the
kind of a value (`Value.kind_of_expand`).
-/

namespace Schemata.Yaml

/-! ## Faults -/

theorem Value.kind_eq_map_iff {v : Value} : v.kind = .map ↔ ∃ source, v = .map source := by
  cases v <;> simp [kind]

namespace Entries

/-- What may stand under a merge key. -/
inductive NamesMappings : Value → Prop where
  | mapping (source : List (Value × Value)) : NamesMappings (.map source)
  | list {items : List Value} (h : ∀ v ∈ items, ∃ source, v = .map source) :
      NamesMappings (.seq items)

/-- The kinds of what stands where a mapping should: of the value itself, or of items of a list. -/
def strays : Value → List Kind
  | .map _ => []
  | .seq items => (items.map Value.kind).filter (· ≠ .map)
  | v => [v.kind]

/-- What is at fault in the merge entries of a mapping. -/
def faults (entries : List (Value × Value)) : List Kind :=
  if hasMergeKey entries then (entries.filter isMerge).flatMap fun e => strays e.2 else []

variable {entries : List (Value × Value)} {items : List Value} {v : Value}

theorem strays_eq_nil_iff : strays v = [] ↔ NamesMappings v := by
  constructor
  · intro h
    cases v with
    | map source => exact .mapping source
    | seq items =>
      refine .list fun v hv => Value.kind_eq_map_iff.mp ?_
      have kept := List.filter_eq_nil_iff.mp h v.kind (List.mem_map_of_mem hv)
      simpa using kept
    | _ => cases h
  · rintro (source | h)
    · rfl
    · refine List.filter_eq_nil_iff.mpr fun kind hk => ?_
      obtain ⟨v, hv, rfl⟩ := List.mem_map.mp hk
      simpa using Value.kind_eq_map_iff.mpr (h v hv)

theorem faults_eq_nil_iff :
    faults entries = [] ↔
      (.string mergeKey ∈ entries.map (·.1) →
        ∀ e ∈ entries, e.1.text? = some mergeKey → NamesMappings e.2) := by
  rw [faults, ← hasMergeKey_iff]
  by_cases h : hasMergeKey entries
  · simp [h, strays_eq_nil_iff, isMerge]
  · simp [h]

/-! ## Merging -/

theorem error?_addSources (acc : List (Value × Value)) (items : List Value) :
    Outcome.error? (addSources acc items) = (strays (.seq items)).head? := by
  induction items generalizing acc with
  | nil => rfl
  | cons v rest ih =>
    cases v with
    | map source => exact ih (addMissing acc source)
    | _ => rfl

theorem error?_addMerged (acc : List (Value × Value)) (v : Value) :
    Outcome.error? (addMerged acc v) = (strays v).head? := by
  cases v with
  | seq items => exact error?_addSources acc items
  | _ => rfl

theorem error?_mergedOf (acc entries : List (Value × Value)) :
    Outcome.error? (mergedOf acc entries) =
      ((entries.filter isMerge).flatMap fun e => strays e.2).head? := by
  induction entries generalizing acc with
  | nil => rfl
  | cons e rest ih =>
    unfold mergedOf
    by_cases he : isMerge e
    · rw [if_pos he, Outcome.error?_bind fun acc _ => ih acc, error?_addMerged,
        List.filter_cons_of_pos he, List.flatMap_cons, List.head?_append]
    · rw [if_neg he, List.filter_cons_of_neg he]
      exact ih acc

theorem error?_merge (entries : List (Value × Value)) :
    Outcome.error? (merge entries) = (faults entries).head? := by
  unfold merge faults
  rw [hasMergeKey_eq_contains]
  by_cases h : contains entries (.string mergeKey)
  · rw [if_pos h, if_pos h, Outcome.error?_bind_pure, error?_mergedOf]
  · rw [if_neg h, if_neg h]
    rfl

end Entries

/-! ## Expansion -/

namespace Value

/-- All that is at fault in a value: below a mapping before what is at fault in it. -/
def faults (v : Value) : List Kind := v.mappings.flatMap Entries.faults

variable {v w : Value} {items out : List Value} {entries expanded : List (Value × Value)}

/-- A value is expanded to one of its kind. -/
theorem kind_of_expand (h : v.expand = .ok w) : w.kind = v.kind := by
  cases v with
  | seq items =>
    obtain ⟨out, -, rfl⟩ := Outcome.map_eq_ok_iff.mp (by simpa only [expand] using h)
    rfl
  | tagged tag v =>
    obtain ⟨out, -, rfl⟩ := Outcome.map_eq_ok_iff.mp (by simpa only [expand] using h)
    rfl
  | map entries =>
    obtain ⟨expanded, merged, -, -, rfl⟩ := expand_map_eq_ok_iff.mp h
    rfl
  | _ =>
    cases h
    rfl

theorem kinds_of_expandItems (h : expandItems items = .ok out) : out.map kind = items.map kind := by
  have each := expandItems_eq_ok_iff.mp h
  clear h
  induction each with
  | nil => rfl
  | cons first _ ih => rw [List.map_cons, List.map_cons, kind_of_expand first, ih]

/-- Expansion neither makes nor mends a fault of a value under a merge key. -/
theorem strays_of_expand (h : v.expand = .ok w) : Entries.strays w = Entries.strays v := by
  cases v with
  | seq items =>
    obtain ⟨out, hi, rfl⟩ := Outcome.map_eq_ok_iff.mp (by simpa only [expand] using h)
    rw [Entries.strays, Entries.strays, kinds_of_expandItems hi]
  | tagged tag v =>
    obtain ⟨out, -, rfl⟩ := Outcome.map_eq_ok_iff.mp (by simpa only [expand] using h)
    rfl
  | map entries =>
    obtain ⟨expanded, merged, -, -, rfl⟩ := expand_map_eq_ok_iff.mp h
    rfl
  | _ =>
    cases h
    rfl

theorem faults_of_expandEntries (h : expandEntries entries = .ok expanded) :
    Entries.faults expanded = Entries.faults entries := by
  have plain : Entries.hasMergeKey expanded = Entries.hasMergeKey entries := by
    rw [Bool.eq_iff_iff, Entries.hasMergeKey_iff, Entries.hasMergeKey_iff, keys_of_expandEntries h]
  have each := expandEntries_eq_ok_iff.mp h
  have under : ((expanded.filter Entries.isMerge).flatMap fun e => Entries.strays e.2) =
      (entries.filter Entries.isMerge).flatMap fun e => Entries.strays e.2 := by
    clear h plain
    induction each with
    | nil => rfl
    | @cons e f rest later first _ ih =>
      have same : Entries.isMerge f = Entries.isMerge e := by
        rw [Entries.isMerge, Entries.isMerge, first.1]
      by_cases he : Entries.isMerge e
      · rw [List.filter_cons_of_pos he, List.filter_cons_of_pos (same.trans he),
          List.flatMap_cons, List.flatMap_cons, ih, strays_of_expand first.2]
      · rw [List.filter_cons_of_neg he, List.filter_cons_of_neg (same ▸ he), ih]
  rw [Entries.faults, Entries.faults, plain, under]

mutual

theorem error?_expand : ∀ v : Value, Outcome.error? v.expand = v.faults.head?
  | .seq items => by
    rw [expand, Outcome.error?_map]
    exact error?_expandItems items
  | .tagged tag v => by
    rw [expand, Outcome.error?_map]
    exact error?_expand v
  | .map entries => by
    have merging (expanded : List (Value × Value)) (he : expandEntries entries = .ok expanded) :
        Outcome.error? (do return Value.map (← Entries.merge expanded)) =
          (Entries.faults entries).head? := by
      rw [Outcome.error?_bind_pure, Entries.error?_merge, faults_of_expandEntries he]
    rw [expand, Outcome.error?_bind merging, error?_expandEntries, faults, mappings,
      List.flatMap_append, List.head?_append, List.flatMap_singleton]
  | .null | .bool _ | .number _ | .string _ => rfl

theorem error?_expandItems : ∀ items : List Value,
    Outcome.error? (expandItems items) = ((mappingsOfItems items).flatMap Entries.faults).head?
  | [] => rfl
  | v :: rest => by
    have later (w : Value) : Outcome.error? (do return w :: (← expandItems rest)) =
        ((mappingsOfItems rest).flatMap Entries.faults).head? := by
      rw [Outcome.error?_bind_pure, error?_expandItems]
    rw [expandItems, Outcome.error?_bind fun w _ => later w, error?_expand, mappingsOfItems,
      List.flatMap_append, List.head?_append, faults]

theorem error?_expandEntries : ∀ entries : List (Value × Value),
    Outcome.error? (expandEntries entries) =
      ((mappingsOfEntries entries).flatMap Entries.faults).head?
  | [] => rfl
  | (k, v) :: rest => by
    have later (w : Value) : Outcome.error? (do return (k, w) :: (← expandEntries rest)) =
        ((mappingsOfEntries rest).flatMap Entries.faults).head? := by
      rw [Outcome.error?_bind_pure, error?_expandEntries]
    rw [expandEntries, Outcome.error?_bind fun w _ => later w, error?_expand, mappingsOfEntries,
      List.flatMap_append, List.head?_append, faults]

end

theorem expand_eq_error_iff {found : Kind} :
    v.expand = .error found ↔ v.faults.head? = some found := by
  rw [← error?_expand, Outcome.error?_eq_some_iff]

theorem exists_expand_iff : (∃ w, v.expand = .ok w) ↔ v.faults = [] := by
  rw [← Outcome.error?_eq_none_iff, error?_expand, List.head?_eq_none_iff]

/-- What is reached in a value that expands does expand. -/
theorem exists_expand_of_reaches (h : v.expand = .ok w) {u : Value} (r : Reaches v u) :
    ∃ x, u.expand = .ok x := by
  have none_at_all := exists_expand_iff.mp ⟨w, h⟩
  rw [faults, List.flatMap_eq_nil_iff] at none_at_all
  rw [exists_expand_iff, faults, List.flatMap_eq_nil_iff]
  intro source hs
  exact none_at_all source (mem_mappings_iff.mpr (r.trans (mem_mappings_iff.mp hs)))

theorem faults_ne_nil_iff :
    v.faults ≠ [] ↔
      ∃ entries, Reaches v (.map entries) ∧ .string mergeKey ∈ entries.map (·.1) ∧
        ∃ e ∈ entries, e.1.text? = some mergeKey ∧ ¬ Entries.NamesMappings e.2 := by
  rw [faults, Ne, List.flatMap_eq_nil_iff]
  simp only [mem_mappings_iff, Entries.faults_eq_nil_iff, not_forall, exists_prop]

/-- **What a value is refused for.** Expansion fails exactly if a mapping that is reached has the
plain merge key and, under that key or a tagged one, something that is neither a mapping nor a list
of mappings, as a tagged mapping is and an empty list is not. It tells the first of what is found
there: below a mapping before in it, and in the order of the entries and of the items of a list. A
value that is expanded keeps its kind. -/
theorem expand_refused (v : Value) :
    ((∃ found, v.expand = .error found) ↔
      ∃ entries, Reaches v (.map entries) ∧ .string mergeKey ∈ entries.map (·.1) ∧
        ∃ e ∈ entries, e.1.text? = some mergeKey ∧ ¬ Entries.NamesMappings e.2) ∧
    (∀ found, v.expand = .error found ↔ (v.mappings.flatMap Entries.faults).head? = some found) ∧
    (∀ tag w, ¬ Entries.NamesMappings (.tagged tag w) ∧
      ∀ items, .tagged tag w ∈ items → ¬ Entries.NamesMappings (.seq items)) ∧
    Entries.NamesMappings (.seq []) ∧
    ∀ w, v.expand = .ok w → w.kind = v.kind := by
  refine ⟨?fails, fun found => expand_eq_error_iff, fun tag w => ⟨nofun, ?item⟩, .list nofun,
    fun w => kind_of_expand⟩
  case fails =>
    rw [← faults_ne_nil_iff, Ne, ← List.head?_eq_none_iff, ← Ne, Option.ne_none_iff_exists']
    exact exists_congr fun found => expand_eq_error_iff
  case item =>
    rintro items hi (_ | each)
    obtain ⟨source, impossible⟩ := each _ hi
    cases impossible

/-- What is wrong below a mapping is found before what is wrong in an earlier entry of it. -/
example :
    (Value.map [(.string "<<", .bool true), (.string "x", .map [(.string "<<", .null)])]).expand =
      .error .null :=
  rfl

end Value

end Schemata.Yaml
