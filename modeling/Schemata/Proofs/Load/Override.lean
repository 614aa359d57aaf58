import Schemata.Proofs.Load

/-!
# Loading with later definitions winning

Under `Collision.override` a load takes the position of a type from the file that declares it first
and its definition from the file that declares it last (`load_override`).
-/

namespace Schemata

namespace Loaded

theorem entries_absorbAll_override (c : Catalog) (incoming : List Catalog) :
    (absorbAll (.merge .override) c incoming).entries =
      Keyed.putAll (·.name) c.entries (incoming.flatMap (·.entries)) := by
  induction incoming generalizing c with
  | nil => rfl
  | cons d incoming ih =>
    have step := (Catalog.mergeEntries_override c d.entries).1
    rw [absorbAll, List.foldl_cons, List.flatMap_cons, Keyed.putAll_append, ← step]
    exact ih _

end Loaded

variable {disk : Disk} {paths : List String}

theorem override_never_stops (c d : Catalog) :
    (c.absorb d (.merge .override)).stopped = none :=
  (Catalog.mergeEntries_override c d.entries).2

theorem entries_of_load_override {loaded : Loaded}
    (h : (load disk (.merge .override) paths).outcome = .ok loaded) :
    loaded.catalog.entries = Keyed.putAll (·.name) [] (definitions disk paths) := by
  rw [catalog_of_load override_never_stops h, Loaded.entries_absorbAll_override, definitions]

/-- The last definition of a name is the one of the last file that declares it. -/
theorem find?_definitions_reverse {before after : List String} {path : String} {c : Catalog}
    {t : TypeDefinition} (hc : declared? disk path = some c) (ht : t ∈ c.entries)
    (last : ∀ later ∈ after, ∀ d, declared? disk later = some d → t.name ∉ d.names) :
    (definitions disk (before ++ path :: after)).reverse.find? (·.name = t.name) = some t := by
  have later : (definitions disk after).reverse.find? (·.name = t.name) = none := by
    rw [List.find?_eq_none]
    intro u hu hn
    obtain ⟨d, hd, hu⟩ := List.mem_flatMap.mp (List.mem_reverse.mp hu)
    obtain ⟨q, hq, hd⟩ := mem_declaredAll.mp hd
    exact last q hq d hd (List.mem_map.mpr ⟨u, hu, by simpa using hn⟩)
  have here : c.entries.reverse.find? (·.name = t.name) = some t := by
    obtain ⟨front, back, hs⟩ := List.append_of_mem ht
    have names := nodup_names_of_declared? hc
    rw [Catalog.names_eq_map, hs, List.map_append, List.map_cons, List.nodup_append'] at names
    have absent : back.reverse.find? (·.name = t.name) = none := by
      rw [List.find?_eq_none]
      intro u hu hn
      exact (List.nodup_cons.mp names.2.1).1
        (List.mem_map.mpr ⟨u, List.mem_reverse.mp hu, by simpa using hn⟩)
    rw [hs, List.reverse_append, List.reverse_cons, List.append_assoc, List.find?_append, absent]
    simp
  rw [definitions, declaredAll_append, declaredAll_cons_of_some hc, List.flatMap_append,
    List.flatMap_cons, List.reverse_append, List.reverse_append, List.find?_append,
    List.find?_append]
  rw [definitions] at later
  rw [later, here]
  rfl

/-- **Loading with later definitions winning.** The load succeeds exactly when every file can be
read, and otherwise tells of the first that cannot. Then the catalog lists the names of all files
that decode, in order of first declaration, each with the definition and source of the last file
that declares it; files that do not decode count for nothing. -/
theorem load_override (disk : Disk) (paths : List String) :
    ((∃ loaded, (load disk (.merge .override) paths).outcome = .ok loaded) ↔
      ∀ path ∈ paths, Readable disk path) ∧
    (∀ before path after fault, paths = before ++ path :: after →
      (∀ earlier ∈ before, Readable disk earlier) → disk path = .error fault →
      (load disk (.merge .override) paths).outcome = .error (.unreadable path fault)) ∧
    ∀ loaded, (load disk (.merge .override) paths).outcome = .ok loaded →
      loaded.catalog.names = ((declaredAll disk paths).flatMap Catalog.names).eraseDups ∧
      (∀ before path after c t, paths = before ++ path :: after →
        declared? disk path = some c → t ∈ c.entries →
        (∀ later ∈ after, ∀ d, declared? disk later = some d → t.name ∉ d.names) →
        loaded.catalog.get? t.name = some t ∧ t.source = path) ∧
      ∃ same, (load disk (.merge .override)
          (paths.filter fun path => (declared? disk path).isSome)).outcome = .ok same ∧
        same.catalog = loaded.catalog := by
  refine ⟨⟨fun ⟨loaded, h⟩ => readable_of_load h, fun h => ?_⟩, ?_, ?_⟩
  · obtain ⟨loaded, h, -⟩ := load_of_readable override_never_stops h
    exact ⟨loaded, h⟩
  · rintro before path after fault rfl hr hf
    exact load_of_unreadable override_never_stops hr hf
  · intro loaded h
    have entries := entries_of_load_override h
    refine ⟨?names, ?last, ?same⟩
    case names =>
      rw [Catalog.names_eq_map, entries, Keyed.map_key_putAll_nil, definitions,
        List.map_flatMap]
      rfl
    case last =>
      rintro before path after c t rfl hc ht last
      refine ⟨?_, source_of_declared? hc ht⟩
      rw [Catalog.get?_eq_find?, entries, Keyed.find?_putAll, find?_definitions_reverse hc ht last]
      rfl
    case same =>
      have readable : ∀ path ∈ paths.filter (fun path => (declared? disk path).isSome),
          Readable disk path := fun path hp => readable_of_load h path (List.mem_of_mem_filter hp)
      obtain ⟨same, hs, hc⟩ := load_of_readable override_never_stops readable
      refine ⟨same, hs, ?_⟩
      rw [hc, catalog_of_load override_never_stops h, declaredAll_filter]

end Schemata
