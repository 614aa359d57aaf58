import Schemata.Load
import Schemata.Renderer

/-!
# Generating

`generate` loads files and renders their types. The template is made ready first, so a template
that does not compile stops the run before any file is read.
-/

namespace Schemata

/-- What a run does with the files. -/
structure Config where
  template : TemplateSource := .builtIn
  types : TypeMap := .fixedWidth
  accumulation : Accumulation := .replace
deriving Repr, Inhabited

structure Generated where
  output : String
  catalog : Catalog
  /-- The files that were skipped. -/
  diagnostics : List Diagnostic
deriving Repr

/-- Why nothing is generated. -/
inductive GenerateError where
  | load (error : LoadError)
  | render (error : RenderError)
  | path (fault : FilePath.Fault)

def GenerateError.message : GenerateError → String
  | .load e => e.message
  | .render e => e.message
  | .path fault => "cannot resolve input paths: " ++ fault.message

/-- Renders a catalog, and tells so. -/
def Renderer.run (r : Renderer) (catalog : Catalog) (files : List String) :
    Run RenderError String := do
  Run.tell [.rendering r.template.name catalog.size]
  Run.ofExcept (r.render catalog files)

/-- Loads files and renders their types. `directory` is the current one, or why there is none. -/
def generate (disk : Disk) (directory : Except ReadFault String) (config : Config)
    (paths : List String) : Run GenerateError Generated := do
  let renderer ← Run.ofExcept <|
    (Renderer.ofSource disk config.template config.types).mapError .render
  let files ← Run.ofExcept ((FilePath.absoluteAll directory paths).mapError .path)
  let loaded ← (load disk config.accumulation paths).mapError .load
  let output ← (renderer.run loaded.catalog files).mapError .render
  Run.tell [.generated output.utf8ByteSize]
  return { output, catalog := loaded.catalog, diagnostics := loaded.diagnostics }

/-- Renders a catalog that is loaded already. -/
def renderCatalog (disk : Disk) (config : Config) (catalog : Catalog) (files : List String) :
    Except RenderError String := do
  (← Renderer.ofSource disk config.template config.types).render catalog files

end Schemata
