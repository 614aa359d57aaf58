import Schemata.Load
import Schemata.Proofs.Catalog
import Schemata.Proofs.Decode

/-!
# Loading files

What a load makes of its files depends on two things about each: whether it can be read, and the
catalog that it declares if it decodes (`declared?`) or else what is told of it (`failure?`). The
run over a list of files is taken apart file by file (`addFiles_eq_bind`, `addFile_of_declared`);
the main statements say for each policy when the load succeeds, with which catalog, and which error
it ends with otherwise.
-/

namespace Schemata

/-! ## Files -/

def Readable (disk : Disk) (path : String) : Prop := ∃ octets, disk path = .ok octets

/-- The catalog that a file declares, if it can be read and decodes. -/
def declared? (disk : Disk) (path : String) : Option Catalog :=
  match disk path with
  | .ok octets => (decode path octets).toOption
  | .error _ => none

/-- What is told of a file that can be read but does not decode. -/
def failure? (disk : Disk) (path : String) : Option Diagnostic :=
  match disk path with
  | .ok octets =>
    match decode path octets with
    | .ok _ => none
    | .error error => some { error, source := Text.Utf8.decodeLossy octets }
  | .error _ => none

/-- The catalogs that files declare, in their order. -/
def declaredAll (disk : Disk) (paths : List String) : List Catalog :=
  paths.filterMap (declared? disk)

/-- The definitions of all files that decode, in order. -/
def definitions (disk : Disk) (paths : List String) : List TypeDefinition :=
  (declaredAll disk paths).flatMap (·.entries)

section Files

variable {disk : Disk} {path : String} {c : Catalog} {t : TypeDefinition}

theorem decode_of_declared? (h : declared? disk path = some c) :
    ∃ octets, disk path = .ok octets ∧ decode path octets = .ok c := by
  unfold declared? at h
  split at h
  · next octets ho =>
    refine ⟨octets, ho, ?_⟩
    cases hd : decode path octets with
    | error e => simp [hd, Except.toOption] at h
    | ok d => simpa [hd, Except.toOption] using h
  · cases h

theorem declared?_of_decode {octets : List UInt8} (ho : disk path = .ok octets)
    (hc : decode path octets = .ok c) : declared? disk path = some c := by
  simp [declared?, ho, hc, Except.toOption]

theorem failure?_of_declared? (h : declared? disk path = some c) : failure? disk path = none := by
  obtain ⟨octets, ho, hd⟩ := decode_of_declared? h
  simp [failure?, ho, hd]

theorem exists_failure? (hr : Readable disk path) (h : declared? disk path = none) :
    ∃ d, failure? disk path = some d := by
  obtain ⟨octets, ho⟩ := hr
  cases hd : decode path octets with
  | ok c => simp [declared?_of_decode ho hd] at h
  | error error => simp [failure?, ho, hd]

theorem nodup_names_of_declared? (h : declared? disk path = some c) : c.names.Nodup := by
  obtain ⟨octets, -, hd⟩ := decode_of_declared? h
  exact nodup_names_of_decode hd

theorem source_of_declared? (h : declared? disk path = some c) (ht : t ∈ c.entries) :
    t.source = path := by
  obtain ⟨octets, -, hd⟩ := decode_of_declared? h
  exact source_of_decode hd t ht

theorem mem_declaredAll {paths : List String} :
    c ∈ declaredAll disk paths ↔ ∃ path ∈ paths, declared? disk path = some c := by
  simp [declaredAll]

theorem declaredAll_append (xs ys : List String) :
    declaredAll disk (xs ++ ys) = declaredAll disk xs ++ declaredAll disk ys := by
  simp [declaredAll]

theorem declaredAll_cons_of_some (h : declared? disk path = some c) (rest : List String) :
    declaredAll disk (path :: rest) = c :: declaredAll disk rest := by
  simp [declaredAll, h]

theorem declaredAll_cons_of_none (h : declared? disk path = none) (rest : List String) :
    declaredAll disk (path :: rest) = declaredAll disk rest := by
  simp [declaredAll, h]

/-- Files that declare nothing may be left out. -/
theorem declaredAll_filter (paths : List String) :
    declaredAll disk (paths.filter fun path => (declared? disk path).isSome) =
      declaredAll disk paths := by
  rw [declaredAll, List.filterMap_filter]
  refine List.filterMap_congr fun path _ => ?_
  cases declared? disk path <;> rfl

end Files

namespace Loaded

variable {disk : Disk} {accumulation : Accumulation} {loaded : Loaded} {path : String}

/-! ## One file -/

theorem addFile_of_error {fault : ReadFault} (h : disk path = .error fault) :
    (loaded.addFile disk accumulation path).outcome = .error (.unreadable path fault) := by
  rw [addFile, Run.outcome_bind, Run.outcome_ofExcept, h]
  rfl

/-- A file that can be read tells of its types, and is then taken in or skipped. -/
theorem addFile_eq_of_ok {octets : List UInt8} (h : disk path = .ok octets) :
    loaded.addFile disk accumulation path =
      Run.tell (typeNotices path octets) >>= fun _ =>
        match decode path octets with
        | .ok c => loaded.take accumulation path c
        | .error error => loaded.skip { error, source := Text.Utf8.decodeLossy octets } := by
  rw [addFile, h]
  rfl

theorem addFile_of_ok {octets : List UInt8} (h : disk path = .ok octets) :
    (loaded.addFile disk accumulation path).outcome =
      match decode path octets with
      | .ok c => (loaded.take accumulation path c).outcome
      | .error error =>
        (loaded.skip { error, source := Text.Utf8.decodeLossy octets }).outcome := by
  rw [addFile_eq_of_ok h, Run.outcome_bind]
  cases decode path octets <;> rfl

theorem addFile_of_failure? {d : Diagnostic} (loaded : Loaded) (h : failure? disk path = some d) :
    (loaded.addFile disk accumulation path).outcome =
      .ok { loaded with diagnostics := loaded.diagnostics ++ [d] } := by
  unfold failure? at h
  split at h
  · next octets ho =>
    split at h
    · cases h
    · next error he =>
      cases h
      rw [addFile_of_ok ho, he]
      rfl
  · cases h

/-- A readable file that declares nothing leaves the catalog as it is. -/
theorem addFile_of_undeclared (loaded : Loaded) (hr : Readable disk path)
    (h : declared? disk path = none) :
    ∃ after, (loaded.addFile disk accumulation path).outcome = .ok after ∧
      after.catalog = loaded.catalog := by
  obtain ⟨d, hd⟩ := exists_failure? hr h
  exact ⟨_, addFile_of_failure? loaded hd, rfl⟩

/-- The catalog of a file that decodes is absorbed. -/
theorem addFile_of_declared {c : Catalog} (h : declared? disk path = some c) :
    (loaded.addFile disk accumulation path).outcome =
      match (loaded.catalog.absorb c accumulation).stopped with
      | some d => .error (.duplicate d)
      | none => .ok { loaded with catalog := (loaded.catalog.absorb c accumulation).catalog } := by
  obtain ⟨octets, ho, hd⟩ := decode_of_declared? h
  rw [addFile_of_ok ho, hd]
  rfl

/-! ## Lists of files -/

theorem addFiles_cons (rest : List String) :
    (loaded.addFiles disk accumulation (path :: rest)).outcome =
      (loaded.addFile disk accumulation path).outcome >>= fun after =>
        (after.addFiles disk accumulation rest).outcome := by
  rw [addFiles, Run.outcome_bind]

theorem addFiles_eq_bind (loaded : Loaded) (before after : List String) :
    loaded.addFiles disk accumulation (before ++ after) =
      loaded.addFiles disk accumulation before >>= fun between =>
        between.addFiles disk accumulation after := by
  induction before generalizing loaded with
  | nil =>
    rw [List.nil_append, addFiles, pure_bind]
  | cons path before ih =>
    simp only [List.cons_append, addFiles, bind_assoc]
    exact bind_congr ih

theorem addFiles_concat (loaded : Loaded) (before : List String) (path : String) :
    loaded.addFiles disk accumulation (before ++ [path]) =
      loaded.addFiles disk accumulation before >>= fun between =>
        between.addFile disk accumulation path := by
  rw [addFiles_eq_bind]
  refine bind_congr fun between => ?_
  rw [addFiles]
  exact bind_pure _

/-- A load that gets to a file ends there if that file does not go through. -/
theorem addFiles_stopped {before after : List String} {between : Loaded} {e : LoadError}
    (hb : (loaded.addFiles disk accumulation before).outcome = .ok between)
    (he : (between.addFile disk accumulation path).outcome = .error e) :
    loaded.addFiles disk accumulation (before ++ path :: after) =
      { notices := (loaded.addFiles disk accumulation before).notices ++
          (between.addFile disk accumulation path).notices
        outcome := .error e } := by
  rw [addFiles_eq_bind]
  simp only [addFiles, bind, hb, he]

theorem addFiles_error {before after : List String} {between : Loaded} {e : LoadError}
    (hb : (loaded.addFiles disk accumulation before).outcome = .ok between)
    (he : (between.addFile disk accumulation path).outcome = .error e) :
    (loaded.addFiles disk accumulation (before ++ path :: after)).outcome = .error e := by
  rw [addFiles_stopped hb he]

/-- A load that succeeds has read every file. -/
theorem readable_of_addFiles {paths : List String} {after : Loaded}
    (h : (loaded.addFiles disk accumulation paths).outcome = .ok after) :
    ∀ path ∈ paths, Readable disk path := by
  induction paths generalizing loaded with
  | nil => simp
  | cons path rest ih =>
    rw [addFiles_cons] at h
    obtain ⟨between, hf, hr⟩ := Outcome.bind_eq_ok_iff.mp h
    rw [List.forall_mem_cons]
    refine ⟨?_, ih hr⟩
    cases hd : disk path with
    | ok octets => exact ⟨octets, hd⟩
    | error fault =>
      rw [addFile_of_error hd] at hf
      cases hf

/-! ## Policies under which nothing collides -/

/-- The catalog after absorbing others, one after the other. -/
def absorbAll (accumulation : Accumulation) (c : Catalog) (incoming : List Catalog) : Catalog :=
  incoming.foldl (fun c d => (c.absorb d accumulation).catalog) c

theorem addFiles_of_readable (loaded : Loaded)
    (hs : ∀ c d : Catalog, (c.absorb d accumulation).stopped = none) {paths : List String}
    (hr : ∀ path ∈ paths, Readable disk path) :
    ∃ after, (loaded.addFiles disk accumulation paths).outcome = .ok after ∧
      after.catalog = absorbAll accumulation loaded.catalog (declaredAll disk paths) := by
  induction paths generalizing loaded with
  | nil => exact ⟨loaded, rfl, rfl⟩
  | cons path rest ih =>
    rw [List.forall_mem_cons] at hr
    rw [addFiles_cons]
    cases hd : declared? disk path with
    | none =>
      obtain ⟨between, hb, hc⟩ := addFile_of_undeclared loaded hr.1 hd
      rw [hb, declaredAll_cons_of_none hd, ← hc]
      exact ih between hr.2
    | some c =>
      rw [addFile_of_declared hd, hs, declaredAll_cons_of_some hd]
      exact ih { loaded with catalog := (loaded.catalog.absorb c accumulation).catalog } hr.2

end Loaded

theorem outcome_load (disk : Disk) (accumulation : Accumulation) (paths : List String) :
    (load disk accumulation paths).outcome =
      (Loaded.addFiles disk accumulation {} paths).outcome := by
  rw [load, Run.outcome_bind]
  cases (Loaded.addFiles disk accumulation {} paths).outcome <;> rfl

section Policies

variable {disk : Disk} {accumulation : Accumulation} {paths : List String}

theorem readable_of_load {loaded : Loaded}
    (h : (load disk accumulation paths).outcome = .ok loaded) :
    ∀ path ∈ paths, Readable disk path := by
  rw [outcome_load] at h
  exact Loaded.readable_of_addFiles h

theorem load_of_readable (hs : ∀ c d : Catalog, (c.absorb d accumulation).stopped = none)
    (hr : ∀ path ∈ paths, Readable disk path) :
    ∃ loaded, (load disk accumulation paths).outcome = .ok loaded ∧
      loaded.catalog = Loaded.absorbAll accumulation {} (declaredAll disk paths) := by
  rw [outcome_load]
  exact Loaded.addFiles_of_readable {} hs hr

theorem catalog_of_load (hs : ∀ c d : Catalog, (c.absorb d accumulation).stopped = none)
    {loaded : Loaded} (h : (load disk accumulation paths).outcome = .ok loaded) :
    loaded.catalog = Loaded.absorbAll accumulation {} (declaredAll disk paths) := by
  obtain ⟨after, ho, hc⟩ := load_of_readable hs (readable_of_load h)
  rw [h] at ho
  cases ho
  exact hc

/-- Where nothing collides, the first file that cannot be read is the one told of. -/
theorem load_of_unreadable (hs : ∀ c d : Catalog, (c.absorb d accumulation).stopped = none)
    {before after : List String} {path : String} {fault : ReadFault}
    (hr : ∀ path ∈ before, Readable disk path) (hf : disk path = .error fault) :
    (load disk accumulation (before ++ path :: after)).outcome =
      .error (.unreadable path fault) := by
  obtain ⟨between, hb, -⟩ := Loaded.addFiles_of_readable {} hs hr
  rw [outcome_load]
  exact Loaded.addFiles_error hb (Loaded.addFile_of_error hf)

end Policies

end Schemata
