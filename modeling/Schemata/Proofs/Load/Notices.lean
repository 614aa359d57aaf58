import Schemata.Proofs.Load.Stop

/-!
# What a load tells

A load tells of its files in turn: of one that does not decode that it is skipped, and of one that
decodes which definitions it replaces, under a policy that lets it (`redefinitions`). Both are known
from the disk and the files before. `notices_load` is all that a load tells, and `load_reported`
which files it tells of as skipped.
-/

namespace Schemata

/-! ## Files in turn -/

/-- What `f` gives for each file, taken with the files before it. -/
def inTurn (f : List String → String → List β) (before : List String) : List String → List β
  | [] => []
  | path :: rest => f before path ++ inTurn f (before ++ [path]) rest

theorem inTurn_concat (f : List String → String → List β) (before paths : List String)
    (path : String) :
    inTurn f before (paths ++ [path]) = inTurn f before paths ++ f (before ++ paths) path := by
  induction paths generalizing before with
  | nil => simp [inTurn]
  | cons first paths ih =>
    rw [List.cons_append, inTurn, inTurn, ih, List.append_assoc, List.append_assoc]
    rfl

/-- What is made of a list piece by piece may be made of the pieces in turn. -/
theorem map_inTurn {g : List β → List γ} (nil : g [] = [])
    (append : ∀ xs ys, g (xs ++ ys) = g xs ++ g ys) (f : List String → String → List β)
    (before paths : List String) :
    g (inTurn f before paths) = inTurn (fun before path => g (f before path)) before paths := by
  induction paths generalizing before with
  | nil => exact nil
  | cons path paths ih => rw [inTurn, append, ih, inTurn]

theorem inTurn_eq_flatMap (f : String → List β) (before paths : List String) :
    inTurn (fun _ => f) before paths = paths.flatMap f := by
  induction paths generalizing before with
  | nil => rfl
  | cons path paths ih => rw [inTurn, ih, List.flatMap_cons]

/-! ## One file -/

/-- The last of some files that declares a name. -/
def lastDeclarer? (disk : Disk) (paths : List String) (name : String) : Option String :=
  paths.reverse.find? fun path => (declared? disk path).any (·.names.contains name)

/-- The definitions of earlier files that the types of a file replace, in document order. -/
def redefinitions (disk : Disk) (accumulation : Accumulation) (before : List String)
    (path : String) : List Redefinition :=
  match accumulation, declared? disk path with
  | .merge .override, some c =>
    c.names.filterMap fun name =>
      (lastDeclarer? disk before name).map fun first => { name, first, second := path }
  | _, _ => []

/-- What is told of a file. -/
def fileNotices (disk : Disk) (accumulation : Accumulation) (before : List String)
    (path : String) : List Notice :=
  match disk path with
  | .error _ => []
  | .ok octets =>
    Loaded.typeNotices path octets ++
      match decode path octets with
      | .ok c =>
        .decodedFile path c.size :: (redefinitions disk accumulation before path).map .redefined
      | .error error => [.skippedFile { error, source := Text.Utf8.decodeLossy octets }]

variable {disk : Disk} {accumulation : Accumulation} {before paths : List String} {path : String}

theorem reported_fileNotices (disk : Disk) (accumulation : Accumulation) (before : List String)
    (path : String) :
    (fileNotices disk accumulation before path).filterMap Notice.diagnostic? =
      (failure? disk path).toList := by
  have types (octets : List UInt8) :
      (Loaded.typeNotices path octets).filterMap Notice.diagnostic? = [] := by
    simp [Loaded.typeNotices, Notice.diagnostic?]
  unfold fileNotices failure?
  cases disk path with
  | error fault => rfl
  | ok octets =>
    simp only [List.filterMap_append, types, List.nil_append]
    cases decode path octets with
    | ok c => simp [Notice.diagnostic?]
    | error error => rfl

theorem redefinitions_of_declared? {c : Catalog} (h : declared? disk path = some c) :
    redefinitions disk (.merge .override) before path =
      c.names.filterMap fun name =>
        (lastDeclarer? disk before name).map fun first => { name, first, second := path } := by
  unfold redefinitions
  rw [h]

theorem lastDeclarer?_concat (disk : Disk) (paths : List String) (path name : String) :
    lastDeclarer? disk (paths ++ [path]) name =
      if (declared? disk path).any (·.names.contains name) then some path
      else lastDeclarer? disk paths name := by
  rw [lastDeclarer?, List.reverse_append, List.reverse_singleton, List.singleton_append,
    List.find?_cons]
  by_cases h : (declared? disk path).any (·.names.contains name)
  · rw [if_pos h, h]
  · rw [if_neg h, Bool.of_not_eq_true h, lastDeclarer?]

theorem definitions_concat_of_some {c : Catalog} (h : declared? disk path = some c)
    (paths : List String) :
    definitions disk (paths ++ [path]) = definitions disk paths ++ c.entries := by
  simp [definitions, declaredAll, h]

theorem definitions_concat_of_none (h : declared? disk path = none) (paths : List String) :
    definitions disk (paths ++ [path]) = definitions disk paths := by
  simp [definitions, declaredAll, h]

/-- The definition that counts under a name is the one of the last file that declares it. -/
theorem source_find?_definitions (disk : Disk) (paths : List String) (name : String) :
    ((definitions disk paths).reverse.find? (·.name = name)).map (·.source) =
      lastDeclarer? disk paths name := by
  induction paths using List.reverseRecOn with
  | nil => rfl
  | append_singleton paths path ih =>
    rw [lastDeclarer?_concat]
    cases hc : declared? disk path with
    | none =>
      rw [definitions_concat_of_none hc]
      simpa using ih
    | some c =>
      -- the last file settles a name that it declares, and leaves the others as they were
      rw [definitions_concat_of_some hc, List.reverse_append, List.find?_append]
      cases found : c.entries.reverse.find? (·.name = name) with
      | none =>
        have absent : name ∉ c.names := by
          simpa [Catalog.names] using found
        simpa [absent] using ih
      | some t =>
        have member : t ∈ c.entries := List.mem_reverse.mp (List.mem_of_find?_eq_some found)
        have named : t.name = name := by simpa using List.find?_some found
        have known : name ∈ c.names := named ▸ List.mem_map_of_mem member
        simpa [known] using source_of_declared? hc member

/-! ## The notices of a load -/

/-- Under a policy that lets later definitions win, the types of a file replace the definitions that
the last of the files before it gave. -/
theorem redefined_absorb {loaded : Loaded} {c : Catalog}
    (h : (Loaded.addFiles disk accumulation {} before).outcome = .ok loaded)
    (hc : declared? disk path = some c) :
    (loaded.catalog.absorb c accumulation).redefined =
      redefinitions disk accumulation before path := by
  match accumulation with
  | .replace => rfl
  | .merge .error => exact Catalog.redefined_error loaded.catalog c.entries
  | .merge .override =>
    have entries : loaded.catalog.entries = Keyed.putAll (·.name) [] (definitions disk before) :=
      entries_of_load_override ((outcome_load _ _ _).trans h)
    have current (name : String) :
        (loaded.catalog.get? name).map (·.source) = lastDeclarer? disk before name := by
      rw [Catalog.get?_eq_find?, entries, Keyed.find?_putAll, List.find?_nil, Option.or_none,
        source_find?_definitions]
    rw [Catalog.absorb, Catalog.redefined_override (nodup_names_of_declared? hc),
      redefinitions_of_declared? hc, Catalog.names_eq_map, List.filterMap_map]
    refine List.filterMap_congr fun t ht => ?_
    rw [Function.comp_apply, ← current, Option.map_map, source_of_declared? hc ht]
    rfl

namespace Loaded

theorem notices_addFile {loaded : Loaded}
    (h : (addFiles disk accumulation {} before).outcome = .ok loaded) (path : String) :
    (loaded.addFile disk accumulation path).notices =
      fileNotices disk accumulation before path := by
  cases hd : disk path with
  | error fault => simp [addFile, fileNotices, hd, Except.mapError, Run.ofExcept, bind]
  | ok octets =>
    rw [addFile_eq_of_ok hd, Run.notices_bind_ok rfl, Run.notices_tell]
    simp only [fileNotices, hd]
    cases hc : decode path octets with
    | error error => rfl
    | ok c =>
      show typeNotices path octets ++ .decodedFile path c.size ::
        (loaded.catalog.absorb c accumulation).redefined.map .redefined = _
      rw [redefined_absorb h (declared?_of_decode hd hc)]

/-- Files that are gone through are told of in turn. -/
theorem notices_addFiles {loaded : Loaded}
    (h : (addFiles disk accumulation {} paths).outcome = .ok loaded) :
    (addFiles disk accumulation {} paths).notices =
      inTurn (fileNotices disk accumulation) [] paths := by
  induction paths using List.reverseRecOn generalizing loaded with
  | nil => rfl
  | append_singleton paths path ih =>
    rw [addFiles_concat, Run.outcome_bind] at h
    obtain ⟨between, hb, -⟩ := Outcome.bind_eq_ok_iff.mp h
    rw [addFiles_concat, Run.notices_bind_ok hb, ih hb, notices_addFile hb, inTurn_concat,
      List.nil_append]

end Loaded

/-- **What a load tells**: it tells in turn of the files that it goes through, and then what it has
loaded, or of the file that stops it. -/
theorem notices_load {gone : List String} (h : GoesThrough disk accumulation paths gone) :
    (∃ loaded, gone = paths ∧ (load disk accumulation paths).outcome = .ok loaded ∧
      (load disk accumulation paths).notices =
        inTurn (fileNotices disk accumulation) [] gone ++
          [.loaded loaded.catalog.size loaded.diagnostics.length]) ∨
    ∃ path after e, paths = gone ++ path :: after ∧ StopsAt disk accumulation gone path e ∧
      (load disk accumulation paths).outcome = .error e ∧
      (load disk accumulation paths).notices =
        inTurn (fileNotices disk accumulation) [] gone ++
          fileNotices disk accumulation gone path := by
  rcases Loaded.addFiles_or_stops disk accumulation paths with
    ⟨loaded, ho, hu⟩ | ⟨before, path, after, between, e, rfl, hu, stops, hb, he⟩
  · obtain rfl := h.unique ⟨hu, .inl rfl⟩
    refine .inl ⟨loaded, rfl, (outcome_load _ _ _).trans ho, ?_⟩
    rw [load, Run.notices_bind_ok ho, Loaded.notices_addFiles ho]
    rfl
  · obtain rfl := h.unique ⟨hu, .inr ⟨path, after, e, rfl, stops⟩⟩
    refine .inr ⟨path, after, e, rfl, stops, ?_⟩
    rw [load, Loaded.addFiles_stopped hb he, Loaded.notices_addFiles hb,
      Loaded.notices_addFile hb]
    exact ⟨rfl, rfl⟩

/-! ## Skipped files -/

theorem reported_inTurn (disk : Disk) (accumulation : Accumulation) (paths : List String) :
    (inTurn (fileNotices disk accumulation) [] paths).filterMap Notice.diagnostic? =
      paths.filterMap (failure? disk) := by
  rw [map_inTurn (List.filterMap_nil) (fun _ _ => List.filterMap_append)]
  simp only [reported_fileNotices]
  rw [inTurn_eq_flatMap, List.filterMap_eq_flatMap_toList]

theorem failure?_of_stopsAt {e : LoadError} (h : StopsAt disk accumulation before path e) :
    failure? disk path = none := by
  cases h with
  | unreadable hf => simp [failure?, hf]
  | collision refused trouble =>
    cases trouble with
    | collision hc => exact failure?_of_declared? hc

theorem reported_of_goesThrough {gone : List String}
    (h : GoesThrough disk accumulation paths gone) :
    (load disk accumulation paths).reported = gone.filterMap (failure? disk) := by
  rcases notices_load h with ⟨loaded, -, -, hn⟩ | ⟨path, after, e, -, stops, -, hn⟩
  · rw [Run.reported, hn, List.filterMap_append, reported_inTurn]
    exact List.append_nil _
  · rw [Run.reported, hn, List.filterMap_append, reported_inTurn, reported_fileNotices,
      failure?_of_stopsAt stops]
    exact List.append_nil _

namespace Loaded

/-- What a file that does not fail to decode does depends on the catalog alone, and nothing is noted
of it. -/
theorem addFile_of_not_failure? (h : failure? disk path = none) (accumulation : Accumulation)
    (loaded other : Loaded) (same : loaded.catalog = other.catalog) :
    (∃ e, (loaded.addFile disk accumulation path).outcome = .error e ∧
      (other.addFile disk accumulation path).outcome = .error e) ∨
    ∃ c, (loaded.addFile disk accumulation path).outcome = .ok { loaded with catalog := c } ∧
      (other.addFile disk accumulation path).outcome = .ok { other with catalog := c } := by
  cases ho : disk path with
  | error fault => exact .inl ⟨_, addFile_of_error ho, addFile_of_error ho⟩
  | ok octets =>
    cases hd : decode path octets with
    | error error => simp [failure?, ho, hd] at h
    | ok c =>
      rw [addFile_of_declared (declared?_of_decode ho hd),
        addFile_of_declared (declared?_of_decode ho hd), same]
      cases (other.catalog.absorb c accumulation).stopped with
      | some d => exact .inl ⟨_, rfl, rfl⟩
      | none => exact .inr ⟨_, rfl, rfl⟩

/-- The files that are noted as skipped are those that fail to decode. -/
theorem diagnostics_addFiles {loaded after : Loaded}
    (h : (loaded.addFiles disk accumulation paths).outcome = .ok after) :
    after.diagnostics = loaded.diagnostics ++ paths.filterMap (failure? disk) := by
  induction paths generalizing loaded with
  | nil =>
    cases h
    simp
  | cons path rest ih =>
    rw [addFiles_cons] at h
    obtain ⟨between, hb, hr⟩ := Outcome.bind_eq_ok_iff.mp h
    rw [ih hr]
    cases hf : failure? disk path with
    | some d =>
      rw [addFile_of_failure? loaded hf] at hb
      cases hb
      simp [hf]
    | none =>
      rcases addFile_of_not_failure? hf accumulation loaded loaded rfl with
        ⟨e, he, -⟩ | ⟨c, hc, -⟩
      · rw [he] at hb
        cases hb
      · rw [hc] at hb
        cases hb
        simp [hf]

/-- Files that fail to decode may be left out. -/
theorem addFiles_filter (loaded other : Loaded) (same : loaded.catalog = other.catalog)
    (paths : List String) :
    (loaded.addFiles disk accumulation
      (paths.filter fun path => (failure? disk path).isNone)).outcome.map (·.catalog) =
      (other.addFiles disk accumulation paths).outcome.map (·.catalog) := by
  -- the two loads differ in what they have noted so far, so they share no more than the catalog
  induction paths generalizing loaded other with
  | nil => exact congrArg Except.ok same
  | cons path rest ih =>
    rw [addFiles_cons]
    cases hf : failure? disk path with
    | some d =>
      rw [addFile_of_failure? other hf, List.filter_cons_of_neg (by simp [hf])]
      exact ih loaded { other with diagnostics := other.diagnostics ++ [d] } same
    | none =>
      rw [List.filter_cons_of_pos (by simp [hf]), addFiles_cons]
      rcases addFile_of_not_failure? hf accumulation loaded other same with
        ⟨e, hl, ho⟩ | ⟨c, hl, ho⟩
      · rw [hl, ho]
        rfl
      · rw [hl, ho]
        exact ih { loaded with catalog := c } { other with catalog := c } rfl

end Loaded

/-- **The files that a load tells of as skipped.** They are those of the files it goes through that
fail to decode, in order, each with the error of its own octets and their text; so it is also when
a later file stops the load. When none does, they are what the load answers as diagnostics. Without
them the load comes to the same catalog or the same error. -/
theorem load_reported (disk : Disk) (accumulation : Accumulation) (paths : List String) :
    (∃ gone, GoesThrough disk accumulation paths gone ∧
      (∀ other, GoesThrough disk accumulation paths other → other = gone) ∧
      (load disk accumulation paths).reported = gone.filterMap (failure? disk) ∧
      (∀ loaded, (load disk accumulation paths).outcome = .ok loaded →
        gone = paths ∧ loaded.diagnostics = (load disk accumulation paths).reported) ∧
      ∀ e, (load disk accumulation paths).outcome = .error e →
        ∃ path after, paths = gone ++ path :: after ∧ StopsAt disk accumulation gone path e) ∧
    (load disk accumulation
        (paths.filter fun path => (failure? disk path).isNone)).outcome.map (·.catalog) =
      (load disk accumulation paths).outcome.map (·.catalog) := by
  refine ⟨?told, ?isolated⟩
  case isolated =>
    rw [outcome_load, outcome_load]
    exact Loaded.addFiles_filter {} {} rfl paths
  case told =>
    obtain ⟨gone, through⟩ := exists_goesThrough disk accumulation paths
    have reported := reported_of_goesThrough through
    have ends := notices_load through
    refine ⟨gone, through, fun _ => through.unique, reported, fun loaded h => ?_, fun e h => ?_⟩
    · rcases ends with ⟨_, rfl, -, -⟩ | ⟨_, _, _, -, -, he, -⟩
      · rw [outcome_load] at h
        rw [reported, Loaded.diagnostics_addFiles h]
        exact ⟨rfl, rfl⟩
      · rw [he] at h
        cases h
    · rcases ends with ⟨_, -, ho, -⟩ | ⟨path, after, e', hs, stops, he, -⟩
      · rw [ho] at h
        cases h
      · rw [he] at h
        cases h
        exact ⟨path, after, hs, stops⟩

end Schemata
