import Schemata.Generate
import Schemata.Proofs.FilePath
import Schemata.Proofs.Outcome

/-!
# Generating in parts

A run makes the template ready, makes the paths absolute, loads the files and renders what they
declare. The lemmas say what it answers and tells when one of these goes wrong; `generate_eq_parts`
is that it comes to what loading and rendering come to by themselves.
-/

namespace Schemata

variable {disk : Disk} {directory : Except ReadFault String} {config : Config}
  {paths files : List String} {renderer : Renderer}

/-! ## Before the load -/

theorem generate_of_template_error {e : RenderError}
    (h : Renderer.ofSource disk config.template config.types = .error e) :
    generate disk directory config paths = { outcome := .error (.render e) } := by
  rw [generate, h]
  rfl

theorem generate_of_path_error {fault : FilePath.Fault}
    (hr : Renderer.ofSource disk config.template config.types = .ok renderer)
    (h : FilePath.absoluteAll directory paths = .error fault) :
    generate disk directory config paths = { outcome := .error (.path fault) } := by
  rw [generate, hr, h]
  rfl

/-! ## From the load on -/

/-- What a run does once its files are loaded. -/
def Renderer.finish (r : Renderer) (loaded : Loaded) (files : List String) :
    Run GenerateError Generated := do
  let output ← (r.run loaded.catalog files).mapError .render
  Run.tell [.generated output.utf8ByteSize]
  return { output, catalog := loaded.catalog, diagnostics := loaded.diagnostics }

theorem Renderer.finish_of_ok {loaded : Loaded} {output : String}
    (h : renderer.render loaded.catalog files = .ok output) :
    renderer.finish loaded files =
      { notices :=
          [.rendering renderer.template.name loaded.catalog.size, .generated output.utf8ByteSize]
        outcome :=
          .ok { output, catalog := loaded.catalog, diagnostics := loaded.diagnostics } } := by
  rw [finish, run, h]
  rfl

theorem Renderer.finish_of_error {loaded : Loaded} {e : RenderError}
    (h : renderer.render loaded.catalog files = .error e) :
    renderer.finish loaded files =
      { notices := [.rendering renderer.template.name loaded.catalog.size]
        outcome := .error (.render e) } := by
  rw [finish, run, h]
  rfl

/-- Rendering skips no file. -/
theorem Renderer.reported_finish (r : Renderer) (loaded : Loaded) (files : List String) :
    (r.finish loaded files).reported = [] := by
  cases h : r.render loaded.catalog files with
  | error e =>
    rw [finish_of_error h]
    rfl
  | ok output =>
    rw [finish_of_ok h]
    rfl

section

variable (hr : Renderer.ofSource disk config.template config.types = .ok renderer)
  (hf : FilePath.absoluteAll directory paths = .ok files)
include hr hf

theorem generate_eq_load_bind :
    generate disk directory config paths =
      (load disk config.accumulation paths).mapError .load >>= fun loaded =>
        renderer.finish loaded files := by
  rw [generate, hr, hf]
  rfl

theorem generate_of_load_error {e : LoadError}
    (h : (load disk config.accumulation paths).outcome = .error e) :
    generate disk directory config paths =
      { notices := (load disk config.accumulation paths).notices
        outcome := .error (.load e) } := by
  have failed : ((load disk config.accumulation paths).mapError GenerateError.load).outcome =
      .error (.load e) := by
    rw [Run.mapError, h]
    rfl
  rw [generate_eq_load_bind hr hf, Run.bind_error failed]
  rfl

theorem generate_of_loaded {loaded : Loaded}
    (h : (load disk config.accumulation paths).outcome = .ok loaded) :
    generate disk directory config paths =
      { notices := (load disk config.accumulation paths).notices ++
          (renderer.finish loaded files).notices
        outcome := (renderer.finish loaded files).outcome } := by
  rw [generate_eq_load_bind hr hf, Run.mapError, h]
  rfl

theorem reported_generate :
    (generate disk directory config paths).reported =
      (load disk config.accumulation paths).reported := by
  cases h : (load disk config.accumulation paths).outcome with
  | error e =>
    rw [generate_of_load_error hr hf h]
    rfl
  | ok loaded =>
    have silent := renderer.reported_finish loaded files
    rw [Run.reported] at silent
    rw [generate_of_loaded hr hf h, Run.reported, List.filterMap_append, silent, List.append_nil]
    rfl

end

theorem renderCatalog_of_ok
    (hr : Renderer.ofSource disk config.template config.types = .ok renderer) (catalog : Catalog) :
    renderCatalog disk config catalog files = renderer.render catalog files := by
  rw [renderCatalog, hr]
  rfl

/-- **Generating is loading, and then rendering what is loaded.** A template that cannot be made
ready comes first, then the first path that has no absolute form; of files nothing is told until
then. From there on the run tells of the files that are skipped as the load does. It fails if the
load does, and otherwise comes to what rendering the loaded catalog comes to, with the absolute
forms of all paths, in their order. -/
theorem generate_eq_parts (disk : Disk) (directory : Except ReadFault String) (config : Config)
    (paths : List String) :
    (∀ e, Renderer.ofSource disk config.template config.types = .error e →
      (generate disk directory config paths).outcome = .error (.render e) ∧
      (generate disk directory config paths).reported = []) ∧
    ∀ renderer, Renderer.ofSource disk config.template config.types = .ok renderer →
      (∀ before path after fault, paths = before ++ path :: after →
        (∀ earlier ∈ before, ∃ file, FilePath.absolute directory earlier = .ok file) →
        FilePath.absolute directory path = .error fault →
        (generate disk directory config paths).outcome = .error (.path fault) ∧
        (generate disk directory config paths).reported = []) ∧
      ∀ files, List.Forall₂ (fun path file => FilePath.absolute directory path = .ok file)
          paths files →
        (generate disk directory config paths).reported =
          (load disk config.accumulation paths).reported ∧
        (∀ e, (load disk config.accumulation paths).outcome = .error e →
          (generate disk directory config paths).outcome = .error (.load e)) ∧
        ∀ loaded, (load disk config.accumulation paths).outcome = .ok loaded →
          (generate disk directory config paths).outcome =
            match renderCatalog disk config loaded.catalog files with
            | .ok output =>
              .ok { output, catalog := loaded.catalog, diagnostics := loaded.diagnostics }
            | .error e => .error (.render e) := by
  refine ⟨fun e he => ?template, fun renderer hr => ⟨?path, fun files hf => ?loaded⟩⟩
  case template =>
    rw [generate_of_template_error he]
    exact ⟨rfl, rfl⟩
  case path =>
    intro before path after fault hs hb hp
    have failed := FilePath.absoluteAll_eq_error_iff.mpr ⟨before, path, after, hs, hb, hp⟩
    rw [generate_of_path_error hr failed]
    exact ⟨rfl, rfl⟩
  case loaded =>
    rw [← FilePath.absoluteAll_eq_ok_iff] at hf
    refine ⟨reported_generate hr hf, fun e hl => ?_, fun loaded hl => ?_⟩
    · rw [generate_of_load_error hr hf hl]
    · rw [generate_of_loaded hr hf hl, renderCatalog_of_ok hr]
      cases ho : renderer.render loaded.catalog files with
      | error e => rw [Renderer.finish_of_error ho]
      | ok output => rw [Renderer.finish_of_ok ho]

end Schemata
