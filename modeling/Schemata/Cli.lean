import Schemata.Cli.LogFilter
import Schemata.Cli.Options
import Schemata.Generate
import Schemata.TypeMap.File

/-!
# The command line

`Cli.run` answers what the program prints and its status for the words of a command line.
-/

namespace Schemata

/-- The template to use when none is given: the one installed beside the program, if there is
one, be it readable or not. -/
def TemplateSource.installed (isFile : String → Bool) (programDirectory : Option String) :
    TemplateSource × Notice :=
  match (programDirectory.map installedPath).filter isFile with
  | some path => (.file path, .installedTemplate path)
  | none => (.builtIn, .noInstalledTemplate)

namespace Cli

/-- What the program finds around it. -/
structure World where
  disk : Disk
  /-- Whether a path leads to a file, which need not be readable. -/
  isFile : String → Bool
  /-- The current directory, or why there is none. -/
  directory : Except ReadFault String
  /-- The directory of the program. -/
  programDirectory : Option String := none
  /-- The setting of the log filter. -/
  logSetting : Option String := none

/-- What goes to the error output. -/
inductive Shown where
  | log (line : LogLine)
  | plain (text : String)
deriving DecidableEq, Repr

/-- The text that goes to the error output; log lines begin with the time. -/
def Shown.render (time : String) : Shown → String
  | .log line => time ++ " " ++ line.level.label ++ " " ++ line.text ++ "\n"
  | .plain s => s

structure Finished where
  status : Nat
  output : String := ""
  shown : List Shown := []
deriving Repr

/-- What is shown of a notice: its line, if the filter lets it through, and the report of a file
that was skipped. -/
def showNotice (filter : Filter) (n : Notice) : List Shown :=
  (if filter.shows n then [.log (logLine n)] else []) ++
    n.diagnostic?.toList.map fun d => .plain d.report

/-- The last line of a run that failed. -/
def showError (message : String) : Shown := .plain ("Error: " ++ message ++ "\n")

/-- What a run comes to: its notices are shown in order, then how many files were skipped. -/
def finish (filter : Filter) (first : List Notice) (r : Run GenerateError Generated) :
    Finished :=
  let skipped := r.reported.length
  let last := if skipped = 0 then [] else [.someSkipped skipped]
  let shown := (first ++ r.notices ++ last).flatMap (showNotice filter)
  match r.outcome with
  | .ok g => { status := 0, output := g.output, shown }
  | .error e => { status := 1, shown := shown ++ [showError e.message] }

/-- The type map that options ask for, or the message of its error. -/
def Options.types (o : Options) (disk : Disk) : Except String TypeMap :=
  match o.typeMap with
  | none => .ok .fixedWidth
  | some path => (TypeMap.ofFile disk path).mapError fun e => s!"{path}: {e.message}"

/-- The template that options ask for, and what is told of the choice. -/
def Options.source (o : Options) (world : World) : TemplateSource × List Notice :=
  match o.template with
  | some path => (.file path, [])
  | none =>
    let (source, notice) := TemplateSource.installed world.isFile world.programDirectory
    (source, [notice])

/-- How files combine. -/
def Options.accumulation (o : Options) : Accumulation :=
  match o.merge with
  | some collision => .merge collision
  | none => .replace

/-- Runs with options. The type map is read before anything else. -/
def runOptions (world : World) (o : Options) : Finished :=
  match o.types world.disk with
  | .error message => { status := 1, shown := [showError message] }
  | .ok types =>
    let (template, first) := o.source world
    finish (.ofSetting world.logSetting o.debug) first <|
      generate world.disk world.directory { template, types, accumulation := o.accumulation }
        o.files

/-- Runs the words of a command line. -/
def run (world : World) (words : List String) : Except Refusal Finished := do
  return runOptions world (← Options.parse words)

/-- The paths that a run may read. -/
def Options.paths (o : Options) (programDirectory : Option String) : List String :=
  o.files ++ o.template.toList ++ o.typeMap.toList ++
    (programDirectory.map TemplateSource.installedPath).toList

end Cli

end Schemata
