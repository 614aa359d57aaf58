import Schemata.Proofs.Catalog
import Schemata.Proofs.Decode

/-!
# Catalogs that files lead to

A catalog is offered files one after the other, each under a policy of its own. Whatever is offered,
and wherever a merge stops, no name comes to stand in the catalog twice, so that an entry is the one
found under its name (`get?_reached`).
-/

namespace Schemata.Catalog

/-- The file that a catalog is offered, and how its types are to be taken in. -/
structure Offer where
  path : String
  octets : List UInt8
  accumulation : Accumulation

/-- The catalog after an offer. A file that does not decode leaves it as it is, and a merge that
stops leaves it as it was then. -/
def take (c : Catalog) (o : Offer) : Catalog :=
  match decode o.path o.octets with
  | .ok incoming => (c.absorb incoming o.accumulation).catalog
  | .error _ => c

/-- The catalog that offers lead to from the empty one. -/
def reached (offers : List Offer) : Catalog := offers.foldl take {}

variable {c incoming : Catalog}

/-! ## One step -/

/-- A merge appends a name only if it is new, also when it stops early. -/
theorem nodup_names_mergeEntries (collision : Collision) (h : c.names.Nodup)
    (types : List TypeDefinition) : (mergeEntries collision c types).catalog.names.Nodup := by
  induction types generalizing c with
  | nil => exact h
  | cons t rest ih =>
    unfold mergeEntries
    split
    · next absent =>
      have new : t.name ∉ c.names := get?_eq_none_iff.mp absent
      refine ih ?_
      rw [names_append, List.nodup_append']
      exact ⟨h, List.nodup_singleton _, by simpa [names] using new⟩
    · cases collision with
      | error => exact h
      | override =>
        refine ih ?_
        rw [names_replaceFirst]
        exact h

theorem nodup_names_absorb (h : c.names.Nodup) (hi : incoming.names.Nodup)
    (accumulation : Accumulation) : (c.absorb incoming accumulation).catalog.names.Nodup := by
  cases accumulation with
  | replace => exact hi
  | merge collision => exact nodup_names_mergeEntries collision h incoming.entries

theorem nodup_names_take (h : c.names.Nodup) (o : Offer) : (c.take o).names.Nodup := by
  unfold take
  split
  · next incoming decoded =>
    exact nodup_names_absorb h (nodup_names_of_decode decoded) o.accumulation
  · exact h

/-! ## Runs -/

theorem nodup_names_foldl_take (h : c.names.Nodup) (offers : List Offer) :
    (offers.foldl take c).names.Nodup := by
  induction offers generalizing c with
  | nil => exact h
  | cons o rest ih => exact ih (nodup_names_take h o)

theorem exists_get?_iff {name : String} : (∃ t, c.get? name = some t) ↔ name ∈ c.names := by
  rw [← Option.ne_none_iff_exists', Ne, get?_eq_none_iff, not_not]

/-- Where no name stands twice, an entry is found under its name. -/
theorem get?_of_mem_entries (h : c.names.Nodup) {t : TypeDefinition} (ht : t ∈ c.entries) :
    c.get? t.name = some t := by
  obtain ⟨u, found⟩ := exists_get?_iff.mpr (List.mem_map_of_mem ht)
  have hu : u ∈ c.entries := List.mem_of_find?_eq_some found
  have same : u = t := List.inj_on_of_nodup_map h hu ht (name_of_get? found)
  rw [found, same]

/-- **Whatever a catalog was offered, no name stands in it twice**: a name is found exactly if it is
among the names, and an entry is the one found under its name. -/
theorem get?_reached (offers : List Offer) :
    (reached offers).names.Nodup ∧
    (∀ name, (∃ t, (reached offers).get? name = some t) ↔ name ∈ (reached offers).names) ∧
    ∀ t ∈ (reached offers).entries, (reached offers).get? t.name = some t := by
  have none_yet : names {} = [] := rfl
  have nodup : (reached offers).names.Nodup :=
    nodup_names_foldl_take (none_yet ▸ List.nodup_nil) offers
  exact ⟨nodup, fun _ => exists_get?_iff, fun _ ht => get?_of_mem_entries nodup ht⟩

end Schemata.Catalog
