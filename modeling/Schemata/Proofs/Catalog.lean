import Schemata.Catalog
import Schemata.Proofs.Keyed

/-!
# Merging catalogs

Under `Collision.override` a merge puts each incoming definition in the place of the earlier one of
its name, or else at the end: the entries are those of `Keyed.putAll`. Under `Collision.error` it
appends them up to the first name that is there already.
-/

namespace Schemata.Catalog

theorem names_eq_map (c : Catalog) : c.names = c.entries.map (·.name) := rfl

theorem get?_eq_find? (c : Catalog) (name : String) :
    c.get? name = c.entries.find? (·.name = name) := by
  unfold get?
  congr 1

/-! ## Later definitions win -/

theorem put_of_mem_names {t : TypeDefinition} {entries : List TypeDefinition}
    (h : t.name ∈ entries.map (·.name)) :
    Keyed.put (·.name) t entries = replaceFirst t entries := by
  induction entries with
  | nil => simp at h
  | cons e rest ih =>
    by_cases he : e.name = t.name
    · simp [Keyed.put, replaceFirst, he]
    · have hr : t.name ∈ rest.map (·.name) := by
        rcases List.mem_cons.mp h with h | h
        · exact absurd h.symm he
        · exact h
      simp [Keyed.put, replaceFirst, he, ih hr]

/-- Overriding never stops, and each incoming definition is put in its place. -/
theorem mergeEntries_override (c : Catalog) (types : List TypeDefinition) :
    (mergeEntries .override c types).catalog.entries = Keyed.putAll (·.name) c.entries types ∧
      (mergeEntries .override c types).stopped = none := by
  induction types generalizing c with
  | nil => exact ⟨rfl, rfl⟩
  | cons t rest ih =>
    have step : Keyed.putAll (·.name) c.entries (t :: rest) =
        Keyed.putAll (·.name) (Keyed.put (·.name) t c.entries) rest := rfl
    rw [step]
    unfold mergeEntries
    split
    · next hn =>
      rw [Keyed.put_of_notMem (get?_eq_none_iff.mp hn)]
      exact ih _
    · next existing hs =>
      have known : t.name ∈ c.entries.map (·.name) := by
        by_contra absent
        rw [← names_eq_map, ← get?_eq_none_iff, hs] at absent
        cases absent
      rw [put_of_mem_names known]
      exact ih ⟨replaceFirst t c.entries⟩

theorem get?_put_of_ne (c : Catalog) {t : TypeDefinition} {name : String} (h : t.name ≠ name) :
    get? ⟨Keyed.put (·.name) t c.entries⟩ name = c.get? name := by
  rw [get?_eq_find?, get?_eq_find?, Keyed.find?_put, if_neg h]

/-- A definition replaces the one that stands under its name, if there is one. -/
theorem redefined_override_cons (c : Catalog) (t : TypeDefinition) (rest : List TypeDefinition) :
    (mergeEntries .override c (t :: rest)).redefined =
      ((c.get? t.name).map fun existing =>
        { name := t.name, first := existing.source, second := t.source }).toList ++
        (mergeEntries .override ⟨Keyed.put (·.name) t c.entries⟩ rest).redefined := by
  cases found : c.get? t.name with
  | none =>
    rw [Keyed.put_of_notMem (get?_eq_none_iff.mp found)]
    simp [mergeEntries, found]
  | some existing =>
    have known : t.name ∈ c.names := by
      by_contra absent
      rw [get?_eq_none_iff.mpr absent] at found
      cases found
    rw [put_of_mem_names known]
    simp [mergeEntries, found]

/-- Definitions of different names replace what stood under their names before all of them. -/
theorem redefined_override {c : Catalog} {types : List TypeDefinition}
    (different : (types.map (·.name)).Nodup) :
    (mergeEntries .override c types).redefined =
      types.filterMap fun t => (c.get? t.name).map fun existing =>
        { name := t.name, first := existing.source, second := t.source } := by
  induction types generalizing c with
  | nil => rfl
  | cons t rest ih =>
    rw [List.map_cons, List.nodup_cons] at different
    have same : ∀ u ∈ rest, get? ⟨Keyed.put (·.name) t c.entries⟩ u.name = c.get? u.name :=
      fun u hu => get?_put_of_ne c fun h => different.1 (h ▸ List.mem_map_of_mem hu)
    rw [redefined_override_cons, ih different.2, List.filterMap_cons,
      List.filterMap_congr fun u hu => by rw [same u hu]]
    cases c.get? t.name <;> rfl

/-! ## Collisions stop the merge -/

/-- The names of definitions are new to a catalog, and none of them occurs twice. -/
structure Fresh (c : Catalog) (types : List TypeDefinition) : Prop where
  new : ∀ t ∈ types, t.name ∉ c.names
  different : (types.map (·.name)).Nodup

theorem fresh_concat_iff {c : Catalog} {types : List TypeDefinition} {t : TypeDefinition} :
    Fresh c (types ++ [t]) ↔ Fresh c types ∧ t.name ∉ names ⟨c.entries ++ types⟩ := by
  have absent : t.name ∉ names ⟨c.entries ++ types⟩ ↔
      t.name ∉ c.names ∧ t.name ∉ types.map (·.name) := by
    rw [names_append, List.mem_append, not_or]
    rfl
  have single : ([t].map (·.name)).Nodup := List.nodup_singleton _
  rw [absent]
  constructor
  · rintro ⟨new, different⟩
    rw [List.forall_mem_append] at new
    rw [List.map_append, List.nodup_append'] at different
    refine ⟨⟨new.1, different.1⟩, new.2 t (List.mem_singleton_self t), fun known => ?_⟩
    exact different.2.2 known (by simp)
  · rintro ⟨⟨new, different⟩, here, before⟩
    refine ⟨?_, ?_⟩
    · rw [List.forall_mem_append]
      exact ⟨new, by simpa using here⟩
    · rw [List.map_append, List.nodup_append']
      exact ⟨different, single, by simpa using before⟩

/-- Definitions with fresh names are appended. -/
theorem mergeEntries_error_append {c : Catalog} {front : List TypeDefinition}
    (fresh : Fresh c front) (rest : List TypeDefinition) :
    mergeEntries .error c (front ++ rest) = mergeEntries .error ⟨c.entries ++ front⟩ rest := by
  induction front using List.reverseRecOn generalizing rest with
  | nil => simp
  | append_singleton front t ih =>
    obtain ⟨before, new⟩ := fresh_concat_iff.mp fresh
    rw [List.append_assoc, ih before, List.singleton_append, mergeEntries]
    simp only [get?_eq_none_iff.mpr new, List.append_assoc]

theorem mergeEntries_error_of_fresh {c : Catalog} {types : List TypeDefinition}
    (fresh : Fresh c types) :
    mergeEntries .error c types = { catalog := ⟨c.entries ++ types⟩ } := by
  have appended := mergeEntries_error_append fresh []
  rw [List.append_nil] at appended
  exact appended

/-- Behind definitions with fresh names, one whose name is known stops the merge. -/
theorem mergeEntries_error_of_known {c : Catalog} {front : List TypeDefinition}
    {t existing : TypeDefinition} (fresh : Fresh c front)
    (known : get? ⟨c.entries ++ front⟩ t.name = some existing) (back : List TypeDefinition) :
    mergeEntries .error c (front ++ t :: back) =
      { catalog := ⟨c.entries ++ front⟩
        stopped := some { name := t.name, first := existing.source, second := t.source } } := by
  rw [mergeEntries_error_append fresh, mergeEntries]
  simp only [known]

theorem redefined_error (c : Catalog) (types : List TypeDefinition) :
    (mergeEntries .error c types).redefined = [] := by
  induction types generalizing c with
  | nil => rfl
  | cons t rest ih =>
    unfold mergeEntries
    split
    · exact ih _
    · rfl

end Schemata.Catalog
