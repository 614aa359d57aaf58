import Mathlib.Data.List.Lattice
import Mathlib.Data.List.Pairwise
import Schemata.Proofs.Load

/-!
# Loading with collisions refused

Under `Collision.error` a load concatenates the catalogs of its files. It ends with the first file
that raises trouble (`TroubleAt`): one that cannot be read, or one that declares a name declared
before it. `Smooth` says that there is none.
-/

namespace Schemata

/-- No name is declared in both catalogs. -/
def Apart (c d : Catalog) : Prop := c.names.Disjoint d.names

instance : Std.Symm Apart := ⟨fun _ _ h => List.Disjoint.symm h⟩

/-- Every file can be read, and no name is declared by two that decode. -/
def Smooth (disk : Disk) (paths : List String) : Prop :=
  (∀ path ∈ paths, Readable disk path) ∧ (declaredAll disk paths).Pairwise Apart

/-- The trouble that a file raises after others. -/
inductive TroubleAt (disk : Disk) (before : List String) (path : String) : LoadError → Prop where
  | unreadable {fault : ReadFault} (hf : disk path = .error fault) :
      TroubleAt disk before path (.unreadable path fault)
  /-- `t` is the first type of the file whose name is declared before, and `earlier` the file that
  declares it. -/
  | collision {c d : Catalog} {front back : List TypeDefinition} {t : TypeDefinition}
      {earlier : String} (hc : declared? disk path = some c)
      (split : c.entries = front ++ t :: back)
      (first : ∀ u ∈ front, ∀ d ∈ declaredAll disk before, u.name ∉ d.names)
      (he : earlier ∈ before) (hd : declared? disk earlier = some d) (known : t.name ∈ d.names) :
      TroubleAt disk before path (.duplicate { name := t.name, first := earlier, second := path })

/-- The trouble that the first troublesome file raises. -/
def FirstTrouble (disk : Disk) (paths : List String) (e : LoadError) : Prop :=
  ∃ before path after, paths = before ++ path :: after ∧ Smooth disk before ∧
    TroubleAt disk before path e

section

variable {disk : Disk} {before paths : List String} {path : String} {e : LoadError}

/-- After files without trouble, one without trouble leaves none. -/
theorem smooth_concat (hb : Smooth disk before) (hr : Readable disk path)
    (new : ∀ c, declared? disk path = some c → ∀ d ∈ declaredAll disk before, Apart d c) :
    Smooth disk (before ++ [path]) := by
  refine ⟨?_, ?_⟩
  · rw [List.forall_mem_append]
    exact ⟨hb.1, by simpa using hr⟩
  · rw [declaredAll_append, List.pairwise_append]
    refine ⟨hb.2, ?_, fun d hd c hc => ?_⟩
    · cases hc : declared? disk path <;> simp [declaredAll, hc]
    · obtain ⟨q, hq, hc⟩ := mem_declaredAll.mp hc
      rw [List.mem_singleton.mp hq] at hc
      exact new c hc d hd

theorem not_smooth_of_trouble (h : TroubleAt disk before path e) (after : List String) :
    ¬ Smooth disk (before ++ path :: after) := by
  intro hs
  cases h with
  | unreadable hf =>
    obtain ⟨octets, ho⟩ := hs.1 path (by simp)
    rw [hf] at ho
    cases ho
  | @collision c d front back t earlier hc split first he hd known =>
    have pairs := hs.2
    rw [declaredAll_append, declaredAll_cons_of_some hc, List.pairwise_append] at pairs
    have apart := pairs.2.2 d (mem_declaredAll.mpr ⟨earlier, he, hd⟩) c (by simp)
    exact apart known (List.mem_map.mpr ⟨t, by simp [split], rfl⟩)

theorem not_smooth_of_firstTrouble (h : FirstTrouble disk paths e) : ¬ Smooth disk paths := by
  obtain ⟨before, path, after, rfl, -, trouble⟩ := h
  exact not_smooth_of_trouble trouble after

/-- Where no name is declared twice, the file that declares a definition is known by its name. -/
theorem source_of_smooth (hb : Smooth disk before) {earlier : String} {c d : Catalog}
    {t : TypeDefinition} (hd : declared? disk earlier = some d) (he : earlier ∈ before)
    (hc : c ∈ declaredAll disk before) (ht : t ∈ c.entries) (known : t.name ∈ d.names) :
    t.source = earlier := by
  have same : c = d := by
    by_contra different
    have apart := hb.2.forall hc (mem_declaredAll.mpr ⟨earlier, he, hd⟩) different
    exact apart (List.mem_map.mpr ⟨t, ht, rfl⟩) known
  exact source_of_declared? hd (same ▸ ht)

theorem mem_names_definitions {name : String} :
    name ∈ (definitions disk before).map (·.name) ↔
      ∃ d ∈ declaredAll disk before, name ∈ d.names := by
  rw [definitions, List.map_flatMap, List.mem_flatMap]
  rfl

/-- A file has a first type whose name is declared before, unless all its names are new. -/
theorem apart_or_collision (before : List String) {c : Catalog}
    (hc : declared? disk path = some c) :
    (∀ d ∈ declaredAll disk before, Apart d c) ∨ ∃ e, TroubleAt disk before path e := by
  let known (t : TypeDefinition) : Bool :=
    (declaredAll disk before).any fun d => d.names.contains t.name
  cases hf : c.entries.find? known with
  | none =>
    refine .inl fun d hd name hn hm => ?_
    obtain ⟨t, ht, rfl⟩ := List.mem_map.mp hm
    have new := List.find?_eq_none.mp hf t ht
    simp only [known, List.any_eq_true, List.contains_iff_mem, not_exists, not_and] at new
    exact new d hd hn
  | some t =>
    obtain ⟨ht, front, back, split, first⟩ := List.find?_eq_some_iff_append.mp hf
    simp only [known, List.any_eq_true, List.contains_iff_mem] at ht
    obtain ⟨d, hd, hn⟩ := ht
    obtain ⟨earlier, he, hd⟩ := mem_declaredAll.mp hd
    refine .inr ⟨_, .collision hc split (fun u hu d hd hn => ?_) he hd hn⟩
    have new := first u hu
    simp only [known, Bool.not_eq_true', List.any_eq_false, List.contains_iff_mem] at new
    exact new d hd hn

end

namespace Loaded

variable {disk : Disk} {before : List String} {path : String} {loaded : Loaded}

/-- A file whose names are all new is appended. -/
theorem addFile_of_apart (hl : loaded.catalog.entries = definitions disk before) {c : Catalog}
    (hc : declared? disk path = some c) (new : ∀ d ∈ declaredAll disk before, Apart d c) :
    ∃ after, (loaded.addFile disk (.merge .error) path).outcome = .ok after ∧
      after.catalog.entries = definitions disk (before ++ [path]) := by
  have fresh : Catalog.Fresh loaded.catalog c.entries := by
    refine ⟨fun t ht hn => ?_, nodup_names_of_declared? hc⟩
    rw [Catalog.names_eq_map, hl] at hn
    obtain ⟨d, hd, hn⟩ := mem_names_definitions.mp hn
    exact new d hd hn (List.mem_map_of_mem ht)
  have absorbed : loaded.catalog.absorb c (.merge .error) =
      { catalog := ⟨loaded.catalog.entries ++ c.entries⟩ } :=
    Catalog.mergeEntries_error_of_fresh fresh
  rw [addFile_of_declared hc, absorbed]
  refine ⟨_, rfl, ?_⟩
  rw [hl, definitions, definitions, declaredAll_append, declaredAll_cons_of_some hc]
  simp [declaredAll]

/-- A troublesome file ends the load with its trouble. -/
theorem addFile_of_trouble (hb : Smooth disk before)
    (hl : loaded.catalog.entries = definitions disk before) {e : LoadError}
    (h : TroubleAt disk before path e) :
    (loaded.addFile disk (.merge .error) path).outcome = .error e := by
  cases h with
  | unreadable hf => exact addFile_of_error hf
  | @collision c d front back t earlier hc split first he hd known =>
    have fresh : Catalog.Fresh loaded.catalog front := by
      have names := nodup_names_of_declared? hc
      rw [Catalog.names_eq_map, split, List.map_append, List.nodup_append'] at names
      refine ⟨fun u hu hn => ?_, names.1⟩
      rw [Catalog.names_eq_map, hl] at hn
      obtain ⟨d, hd, hn⟩ := mem_names_definitions.mp hn
      exact first u hu d hd hn
    have there : t.name ∈ loaded.catalog.names := by
      rw [Catalog.names_eq_map, hl]
      exact mem_names_definitions.mpr ⟨d, mem_declaredAll.mpr ⟨earlier, he, hd⟩, known⟩
    cases hg : loaded.catalog.get? t.name with
    | none => exact absurd there (Catalog.get?_eq_none_iff.mp hg)
    | some existing =>
      have found : Catalog.get? ⟨loaded.catalog.entries ++ front⟩ t.name = some existing := by
        simp only [Catalog.get?] at hg
        simp [Catalog.get?, List.find?_append, hg]
      have named := Catalog.name_of_get? hg
      have member : existing ∈ definitions disk before := hl ▸ List.mem_of_find?_eq_some hg
      obtain ⟨c', hc', member⟩ := List.mem_flatMap.mp member
      have source := source_of_smooth hb hd he hc' member (named ▸ known)
      have own : t.source = path := source_of_declared? hc (by simp [split])
      have absorbed : (loaded.catalog.absorb c (.merge .error)).stopped =
          some { name := t.name, first := earlier, second := path } := by
        rw [Catalog.absorb, split, Catalog.mergeEntries_error_of_known fresh found, source, own]
      rw [addFile_of_declared hc, absorbed]

/-- Loading one more file keeps the catalog the concatenation of all, or meets trouble. -/
theorem addFile_cases (hb : Smooth disk before)
    (hl : loaded.catalog.entries = definitions disk before) (path : String) :
    (∃ after, (loaded.addFile disk (.merge .error) path).outcome = .ok after ∧
      Smooth disk (before ++ [path]) ∧
      after.catalog.entries = definitions disk (before ++ [path])) ∨
    ∃ e, TroubleAt disk before path e := by
  cases hf : disk path with
  | error fault => exact .inr ⟨_, .unreadable hf⟩
  | ok octets =>
    have hr : Readable disk path := ⟨octets, hf⟩
    cases hc : declared? disk path with
    | none =>
      obtain ⟨after, ho, same⟩ := addFile_of_undeclared loaded hr hc
      refine .inl ⟨after, ho, smooth_concat hb hr (by simp [hc]), ?_⟩
      rw [same, hl, definitions, definitions, declaredAll_append, declaredAll_cons_of_none hc]
      simp [declaredAll]
    | some c =>
      rcases apart_or_collision before hc with new | trouble
      · obtain ⟨after, ho, entries⟩ := addFile_of_apart hl hc new
        refine .inl ⟨after, ho, smooth_concat hb hr (fun d hd => ?_), entries⟩
        rw [hc] at hd
        cases hd
        exact new
      · exact .inr trouble

/-- A load ends without trouble and with everything declared, or with the first trouble. -/
theorem addFiles_cases (hb : Smooth disk before)
    (hl : loaded.catalog.entries = definitions disk before) (rest : List String) :
    (∃ after, (loaded.addFiles disk (.merge .error) rest).outcome = .ok after ∧
      Smooth disk (before ++ rest) ∧
      after.catalog.entries = definitions disk (before ++ rest)) ∨
    ∃ e, (loaded.addFiles disk (.merge .error) rest).outcome = .error e ∧
      FirstTrouble disk (before ++ rest) e := by
  induction rest generalizing before loaded with
  | nil => exact .inl ⟨loaded, rfl, by simpa using hb, by simpa using hl⟩
  | cons path rest ih =>
    rw [addFiles_cons]
    rcases addFile_cases hb hl path with ⟨between, ho, hs, entries⟩ | ⟨e, trouble⟩
    · rw [ho, List.append_cons]
      exact ih hs entries
    · rw [addFile_of_trouble hb hl trouble]
      exact .inr ⟨e, rfl, before, path, rest, rfl, hb, trouble⟩

end Loaded

theorem load_error_cases (disk : Disk) (paths : List String) :
    (∃ loaded, (load disk (.merge .error) paths).outcome = .ok loaded ∧ Smooth disk paths ∧
      loaded.catalog.entries = definitions disk paths) ∨
    ∃ e, (load disk (.merge .error) paths).outcome = .error e ∧ FirstTrouble disk paths e := by
  have none_yet : Smooth disk [] := ⟨by simp, List.Pairwise.nil⟩
  rw [outcome_load]
  exact Loaded.addFiles_cases none_yet rfl paths

theorem load_of_firstTrouble {disk : Disk} {paths : List String} {e : LoadError}
    (h : FirstTrouble disk paths e) : (load disk (.merge .error) paths).outcome = .error e := by
  obtain ⟨before, path, after, rfl, hb, trouble⟩ := h
  rcases load_error_cases disk before with ⟨between, ho, -, entries⟩ | ⟨e', -, first⟩
  · rw [outcome_load] at ho ⊢
    exact Loaded.addFiles_error ho (Loaded.addFile_of_trouble hb entries trouble)
  · exact absurd hb (not_smooth_of_firstTrouble first)

/-- **Loading with collisions refused.** The load succeeds exactly when every file can be read and
no name is declared by two of them, and then its catalog is the concatenation of theirs. Otherwise
it ends with the trouble of the first file that raises any. -/
theorem load_error (disk : Disk) (paths : List String) :
    ((∃ loaded, (load disk (.merge .error) paths).outcome = .ok loaded) ↔ Smooth disk paths) ∧
    (∀ loaded, (load disk (.merge .error) paths).outcome = .ok loaded →
      loaded.catalog.entries = (declaredAll disk paths).flatMap (·.entries)) ∧
    ∀ e, (load disk (.merge .error) paths).outcome = .error e ↔ FirstTrouble disk paths e := by
  rcases load_error_cases disk paths with ⟨loaded, ho, smooth, entries⟩ | ⟨e, he, first⟩
  · refine ⟨⟨fun _ => smooth, fun _ => ⟨loaded, ho⟩⟩, fun other h => ?_, fun e => ?_⟩
    · rw [ho] at h
      cases h
      exact entries
    · rw [ho]
      exact ⟨nofun, fun first => absurd smooth (not_smooth_of_firstTrouble first)⟩
  · refine ⟨⟨fun ⟨loaded, h⟩ => ?_, fun smooth => ?_⟩, fun loaded h => ?_, fun e' => ?_⟩
    · rw [he] at h
      cases h
    · exact absurd smooth (not_smooth_of_firstTrouble first)
    · rw [he] at h
      cases h
    · refine ⟨fun h => ?_, load_of_firstTrouble⟩
      rw [he] at h
      cases h
      exact first

end Schemata
