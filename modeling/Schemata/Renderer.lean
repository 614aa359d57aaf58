import Schemata.Catalog
import Schemata.Disk
import Schemata.FilePath
import Schemata.Template.BuiltIn
import Schemata.Template.Render

/-!
# Renderers

A renderer is a template read and ready, with the type map that its filters use. It renders a
catalog: the template sees the types, and the files they come from.
-/

namespace Schemata

/-- Where the text of a template is. -/
inductive TemplateSource where
  | builtIn
  | file (path : String)
  | inline (name text : String)
deriving DecidableEq, Repr, Inhabited

/-- Why nothing is rendered. -/
inductive RenderError where
  | unreadable (path : String) (fault : ReadFault)
  | malformed (template : String) (fault : Template.CompileFault)
  /-- The template asks the types for what they do not have. -/
  | mismatch (template : String) (failure : Template.Failure)

def RenderError.message : RenderError → String
  | .unreadable path fault => s!"cannot read template '{path}': {fault.message}"
  | .malformed template fault => s!"invalid template '{template}': {fault.message template}"
  | .mismatch template failure =>
    s!"template '{template}' does not match the schema: {failure.message template}"

namespace TemplateSource

/-- The name of the template: for a file, the last part of its path. -/
def name : TemplateSource → String
  | .builtIn => Template.builtInName
  | .file path => (FilePath.fileName? path).getD path
  | .inline given _ => given

def read (disk : Disk) : TemplateSource → Except RenderError String
  | .builtIn => .ok Template.builtInText
  | .file path => (disk.readText path).mapError (.unreadable path)
  | .inline _ text => .ok text

/-- Where a template is installed below the directory of the program. -/
def installedPath (directory : String) : String :=
  FilePath.join (FilePath.join directory Template.installedDirectory) Template.builtInName

end TemplateSource

structure Renderer where
  template : Template
  types : TypeMap

namespace Renderer

/-- A renderer for the template of a text. -/
def ofText (name text : String) (types : TypeMap) : Except RenderError Renderer := do
  let template ← (Template.compile name text).mapError (.malformed name)
  return { template, types }

/-- A renderer for the template at a source. -/
def ofSource (disk : Disk) (source : TemplateSource) (types : TypeMap) :
    Except RenderError Renderer := do
  ofText source.name (← source.read disk) types

/-- What templates see: the paths of the files and the types. -/
def context (catalog : Catalog) (files : List String) : Fields :=
  [("files", .list (files.map .string)), ("types", catalog.data)]

/-- The text that the template makes of a catalog. -/
def render (r : Renderer) (catalog : Catalog) (files : List String) :
    Except RenderError String :=
  let env : Template.Env :=
    { template := r.template, context := context catalog files, types := r.types }
  env.render.mapError (.mismatch r.template.name)

end Renderer

end Schemata
