import Schemata.Proofs.Load.Stop

/-!
# Loading with each file replacing the catalog

Under `Accumulation.replace` nothing collides, and what is absorbed last is left
(`catalog_of_load_replace`). So the file that counts is the last one that decodes, wherever it
stands among the arguments, while a file that cannot be read stops the load even if one after it
would have replaced everything (`load_replace`).
-/

namespace Schemata

/-- The trouble of the first file that cannot be read. -/
def FirstUnreadable (disk : Disk) (paths : List String) (e : LoadError) : Prop :=
  ∃ before path after fault, paths = before ++ path :: after ∧
    (∀ earlier ∈ before, Readable disk earlier) ∧ disk path = .error fault ∧
    e = .unreadable path fault

theorem Loaded.absorbAll_replace (c : Catalog) (incoming : List Catalog) :
    absorbAll .replace c incoming = incoming.getLast?.getD c := by
  induction incoming generalizing c with
  | nil => rfl
  | cons d incoming ih =>
    have step : absorbAll .replace c (d :: incoming) = absorbAll .replace d incoming := rfl
    rw [step, ih, List.getLast?_cons]
    rfl

variable {disk : Disk} {before after paths : List String} {path : String} {c : Catalog}

theorem replace_never_stops (c d : Catalog) : (c.absorb d .replace).stopped = none := rfl

/-- What is left is the catalog of the last file that decodes, or nothing. -/
theorem catalog_of_load_replace {loaded : Loaded}
    (h : (load disk .replace paths).outcome = .ok loaded) :
    loaded.catalog = (declaredAll disk paths).getLast?.getD {} := by
  rw [catalog_of_load replace_never_stops h, Loaded.absorbAll_replace]

theorem declaredAll_eq_nil (h : ∀ path ∈ paths, declared? disk path = none) :
    declaredAll disk paths = [] :=
  List.filterMap_eq_nil_iff.mpr h

/-- Files behind the last one that decodes do not count. -/
theorem getLast?_declaredAll (h : declared? disk path = some c)
    (last : ∀ later ∈ after, declared? disk later = none) :
    (declaredAll disk (before ++ path :: after)).getLast? = some c := by
  rw [declaredAll_append, declaredAll_cons_of_some h, declaredAll_eq_nil last]
  exact List.getLast?_concat

/-- The load fails exactly with the trouble of the first file that cannot be read. -/
theorem load_replace_eq_error_iff {e : LoadError} :
    (load disk .replace paths).outcome = .error e ↔ FirstUnreadable disk paths e := by
  constructor
  · intro h
    rw [outcome_load] at h
    rcases Loaded.addFiles_or_stops disk .replace paths with
      ⟨loaded, ho, -⟩ | ⟨before, path, after, between, e', rfl, hu, stops, ho, he⟩
    · rw [h] at ho
      cases ho
    · rw [Loaded.addFiles_error ho he] at h
      cases h
      cases stops with
      | unreadable hf => exact ⟨before, path, after, _, rfl, hu.1, hf, rfl⟩
      | collision refused => cases refused
  · rintro ⟨before, path, after, fault, rfl, readable, hf, rfl⟩
    exact load_of_unreadable replace_never_stops readable hf

/-- **Loading with each file replacing the catalog.** The load succeeds exactly when every file can
be read, and otherwise fails for the first that cannot. Then its catalog is what the last file that
decodes gives, and empty if none decodes; so it is the same for any other files, on whatever disk,
of which the last that decodes gives the same. -/
theorem load_replace (disk : Disk) (paths : List String) :
    ((∃ loaded, (load disk .replace paths).outcome = .ok loaded) ↔
      ∀ path ∈ paths, Readable disk path) ∧
    (∀ e, (load disk .replace paths).outcome = .error e ↔ FirstUnreadable disk paths e) ∧
    ∀ loaded, (load disk .replace paths).outcome = .ok loaded →
      (∀ before path after octets c, paths = before ++ path :: after →
        disk path = .ok octets → decode path octets = .ok c →
        (∀ later ∈ after, declared? disk later = none) → loaded.catalog = c) ∧
      ((∀ path ∈ paths, declared? disk path = none) → loaded.catalog = {}) ∧
      ∀ other others same, (load other .replace others).outcome = .ok same →
        (declaredAll other others).getLast? = (declaredAll disk paths).getLast? →
        same.catalog = loaded.catalog := by
  refine ⟨⟨fun ⟨loaded, h⟩ => readable_of_load h, fun h => ?_⟩,
    fun e => load_replace_eq_error_iff, fun loaded h => ⟨?last, ?none, ?same⟩⟩
  · obtain ⟨loaded, h, -⟩ := load_of_readable replace_never_stops h
    exact ⟨loaded, h⟩
  case last =>
    rintro before path after octets c rfl ho hd last
    have declared : declared? disk path = some c := declared?_of_decode ho hd
    rw [catalog_of_load_replace h, getLast?_declaredAll declared last]
    rfl
  case none =>
    intro nothing
    rw [catalog_of_load_replace h, declaredAll_eq_nil nothing]
    rfl
  case same =>
    intro other others same ho hl
    rw [catalog_of_load_replace ho, catalog_of_load_replace h, hl]

end Schemata
