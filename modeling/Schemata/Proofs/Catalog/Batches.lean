import Schemata.Proofs.Catalog.Reached
import Schemata.Proofs.Load.Override

/-!
# Merging in batches

Under `Collision.override` the position of a name comes from the first catalog that has it and the
definition from the last one. Catalogs without repeated names can therefore be merged in any
grouping (`override_assoc`): one by one, or in batches that are merged before.
-/

namespace Schemata.Catalog

/-- A catalog with the definitions of another put in, the later ones winning. -/
def overriddenBy (c incoming : Catalog) : Catalog :=
  (c.absorb incoming (.merge .override)).catalog

theorem entries_overriddenBy (c incoming : Catalog) :
    (c.overriddenBy incoming).entries = Keyed.putAll (·.name) c.entries incoming.entries :=
  (mergeEntries_override c incoming.entries).1

theorem eq_of_entries {c d : Catalog} (h : c.entries = d.entries) : c = d := congrArg Catalog.mk h

theorem overriddenBy_assoc (a : Catalog) {b : Catalog} (c : Catalog) (h : b.names.Nodup) :
    (a.overriddenBy b).overriddenBy c = a.overriddenBy (b.overriddenBy c) := by
  have grouped : Keyed.putAll (·.name) a.entries (Keyed.putAll (·.name) b.entries c.entries) =
      Keyed.putAll (·.name) (Keyed.putAll (·.name) a.entries b.entries) c.entries :=
    Keyed.putAll_putAll a.entries c.entries h
  apply eq_of_entries
  rw [entries_overriddenBy, entries_overriddenBy, entries_overriddenBy, entries_overriddenBy,
    grouped]

theorem empty_overriddenBy {a : Catalog} (h : a.names.Nodup) : overriddenBy {} a = a := by
  have placed : Keyed.putAll (·.name) [] a.entries = [] ++ a.entries := Keyed.putAll_of_nodup h
  apply eq_of_entries
  rw [entries_overriddenBy, placed, List.nil_append]

/-- A batch merged before brings what its catalogs bring one by one, whatever they repeat. -/
theorem overriddenBy_absorbAll (c : Catalog) (batch : List Catalog) :
    c.overriddenBy (Loaded.absorbAll (.merge .override) {} batch) =
      Loaded.absorbAll (.merge .override) c batch := by
  apply eq_of_entries
  rw [entries_overriddenBy, Loaded.entries_absorbAll_override, Loaded.entries_absorbAll_override]
  exact Keyed.putAll_putAll c.entries _ List.nodup_nil

theorem absorbAll_batches (c : Catalog) (batches : List (List Catalog)) :
    Loaded.absorbAll (.merge .override) c
        (batches.map (Loaded.absorbAll (.merge .override) {})) =
      Loaded.absorbAll (.merge .override) c batches.flatten := by
  induction batches generalizing c with
  | nil => rfl
  | cons batch rest ih =>
    let merged (c : Catalog) (incoming : List Catalog) : Catalog :=
      Loaded.absorbAll (.merge .override) c incoming
    calc merged c ((batch :: rest).map (merged {}))
        = merged (c.overriddenBy (merged {} batch)) (rest.map (merged {})) := rfl
      _ = merged (merged c batch) (rest.map (merged {})) := by rw [overriddenBy_absorbAll c batch]
      _ = merged (merged c batch) rest.flatten := ih (merged c batch)
      _ = merged c (batch ++ rest.flatten) := List.foldl_append.symm

/-- **Merging is a monoid where later definitions win.** It never stops; it can be grouped in either
way and has the empty catalog as its identity, among the catalogs in which no name is repeated, from
which it does not lead out. So catalogs can be merged one by one or in batches. -/
theorem override_assoc :
    (∀ a b : Catalog, (a.absorb b (.merge .override)).stopped = none) ∧
    (∀ a b c : Catalog, b.names.Nodup →
      (a.overriddenBy b).overriddenBy c = a.overriddenBy (b.overriddenBy c)) ∧
    (∀ a : Catalog, a.overriddenBy {} = a) ∧
    (∀ a : Catalog, a.names.Nodup → overriddenBy {} a = a) ∧
    (∀ a b : Catalog, a.names.Nodup → b.names.Nodup → (a.overriddenBy b).names.Nodup) ∧
    ∀ (c : Catalog) (batches : List (List Catalog)),
      Loaded.absorbAll (.merge .override) c
          (batches.map (Loaded.absorbAll (.merge .override) {})) =
        Loaded.absorbAll (.merge .override) c batches.flatten := by
  refine ⟨override_never_stops, fun a b c hb => ?grouping, fun a => rfl, fun a ha => ?identity,
    fun a b ha hb => ?closed, absorbAll_batches⟩
  case grouping => exact overriddenBy_assoc a c hb
  case identity => exact empty_overriddenBy ha
  case closed => exact nodup_names_absorb ha hb (.merge .override)

/-- Where the middle catalog repeats a name, the grouping tells. -/
example :
    let t (source : String) : TypeDefinition := { name := "T", definition := .scalar .null, source }
    let b : Catalog := { entries := [t "b", t "b'"] }
    let c : Catalog := { entries := [t "c"] }
    (((overriddenBy {} b).overriddenBy c).entries.map (·.source) = ["c"]) ∧
      (overriddenBy {} (b.overriddenBy c)).entries.map (·.source) = ["b'"] :=
  ⟨rfl, rfl⟩

end Schemata.Catalog
