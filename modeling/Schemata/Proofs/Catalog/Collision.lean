import Schemata.Proofs.Catalog

/-!
# Where a merge stops

Under `Collision.error` a merge appends definitions until it comes to one whose name is known: from
the catalog, or from a definition that it has appended itself (`FirstKnown`). What it has appended
by then stays, so that the catalog it leaves tells how far it came (`absorb_error`). Catalogs may
have repeated names to begin with.
-/

namespace Schemata.Catalog

/-- The first entry under a name. -/
def FirstNamed (entries : List TypeDefinition) (name : String) (t : TypeDefinition) : Prop :=
  ∃ before after, entries = before ++ t :: after ∧ t.name = name ∧ ∀ u ∈ before, u.name ≠ name

/-- `t` is the first definition of a list whose name is known before it, `front` are the ones that
come before it, and `existing` is the first entry that it is known from. -/
structure FirstKnown (c : Catalog) (types front : List TypeDefinition)
    (t existing : TypeDefinition) : Prop where
  split : ∃ back, types = front ++ t :: back
  fresh : Fresh c front
  known : FirstNamed (c.entries ++ front) t.name existing

variable {c : Catalog} {types front : List TypeDefinition} {t existing : TypeDefinition}

theorem get?_eq_some_iff {name : String} : c.get? name = some t ↔ FirstNamed c.entries name t := by
  rw [get?_eq_find?, List.find?_eq_some_iff_append]
  constructor
  · rintro ⟨named, before, after, split, others⟩
    exact ⟨before, after, split, by simpa using named, fun u hu => by simpa using others u hu⟩
  · rintro ⟨before, after, split, named, others⟩
    exact ⟨by simpa using named, before, after, split, fun u hu => by simpa using others u hu⟩

theorem FirstKnown.not_fresh (h : FirstKnown c types front t existing) : ¬ Fresh c types := by
  intro fresh
  obtain ⟨back, split⟩ := h.split
  rw [List.append_cons] at split
  subst split
  have still : Fresh c (front ++ [t]) := by
    refine ⟨fun u hu => fresh.new u (List.mem_append_left back hu), ?_⟩
    exact fresh.different.sublist ((List.sublist_append_left _ back).map _)
  have new : t.name ∉ names ⟨c.entries ++ front⟩ := (fresh_concat_iff.mp still).2
  rw [← get?_eq_none_iff, get?_eq_some_iff.mpr h.known] at new
  cases new

/-- All names are fresh, or one is the first that is not. -/
theorem fresh_or_firstKnown (c : Catalog) (types : List TypeDefinition) :
    Fresh c types ∨ ∃ front t existing, FirstKnown c types front t existing := by
  -- whether a name is known depends on all that come before it, so the last one is taken off
  induction types using List.reverseRecOn with
  | nil => exact .inl ⟨nofun, List.nodup_nil⟩
  | append_singleton types t ih =>
    rcases ih with fresh | ⟨front, u, existing, ⟨back, split⟩, fresh, known⟩
    · cases found : get? ⟨c.entries ++ types⟩ t.name with
      | none => exact .inl (fresh_concat_iff.mpr ⟨fresh, get?_eq_none_iff.mp found⟩)
      | some existing =>
        exact .inr ⟨types, t, existing, ⟨[], rfl⟩, fresh, get?_eq_some_iff.mp found⟩
    · have longer : types ++ [t] = front ++ u :: (back ++ [t]) := by
        rw [split, List.append_assoc, List.cons_append]
      exact .inr ⟨front, u, existing, ⟨back ++ [t], longer⟩, fresh, known⟩

/-- **A merge in which collisions are refused.** If all incoming names are fresh, the definitions
are appended. Otherwise the merge stops at the first whose name is known and tells of it and of the
first entry under that name; the catalog has been left as it was, but for the definitions before,
which are appended. -/
theorem absorb_error (c incoming : Catalog) :
    (Fresh c incoming.entries →
      c.absorb incoming (.merge .error) = { catalog := ⟨c.entries ++ incoming.entries⟩ }) ∧
    (¬ Fresh c incoming.entries ↔
      ∃ front t existing, FirstKnown c incoming.entries front t existing) ∧
    ∀ front t existing, FirstKnown c incoming.entries front t existing →
      c.absorb incoming (.merge .error) =
        { catalog := ⟨c.entries ++ front⟩
          stopped := some { name := t.name, first := existing.source, second := t.source } } := by
  refine ⟨mergeEntries_error_of_fresh, ⟨fun repeated => ?first, ?known⟩, ?stops⟩
  case first => exact (fresh_or_firstKnown c incoming.entries).resolve_left repeated
  case known =>
    rintro ⟨front, t, existing, h⟩
    exact h.not_fresh
  case stops =>
    intro front t existing h
    obtain ⟨back, split⟩ := h.split
    have found : get? ⟨c.entries ++ front⟩ t.name = some existing := get?_eq_some_iff.mpr h.known
    rw [absorb, split, mergeEntries_error_of_known h.fresh found]

end Schemata.Catalog
