import Schemata.Notice

/-!
# Logging

Notices are logged as lines: a message, and the values that belong to it.
-/

namespace Schemata.Cli

/-- How much a line matters, the most important first. -/
inductive Level where
  | error | warn | info | debug | trace
deriving DecidableEq, Repr, Inhabited

namespace Level

/-- The higher, the less a line matters. -/
def rank : Level → Nat
  | .error => 1
  | .warn => 2
  | .info => 3
  | .debug => 4
  | .trace => 5

/-- The name, as wide as the widest. -/
def label : Level → String
  | .error => "ERROR"
  | .warn => " WARN"
  | .info => " INFO"
  | .debug => "DEBUG"
  | .trace => "TRACE"

end Level

/-- A line of the log. -/
structure LogLine where
  level : Level
  message : String
  values : List (String × String) := []
deriving DecidableEq, Repr

namespace LogLine

/-- The message, and behind it the values by name. -/
def text (line : LogLine) : String :=
  line.message ++ String.join (line.values.map fun (name, value) => s!" {name}={value}")

/-- Whether the line holds a value of a name; its message counts as one. -/
def holds (line : LogLine) (name : String) : Bool :=
  name == "message" || (line.values.lookup name).isSome

end LogLine

def logName : String := "ac_types"

/-- The part of the program that a notice comes from. -/
def logTarget : Notice → String
  | .noInstalledTemplate | .installedTemplate _ => logName ++ "::template::source"
  | .decodedType .. | .decodedFile .. | .skippedFile _ | .loaded .. =>
    logName ++ "::schema::loader"
  | .redefined _ => logName ++ "::schema::catalog"
  | .rendering .. => logName ++ "::template::renderer"
  | .generated _ | .someSkipped _ => logName

/-- The line that tells a notice. -/
def logLine : Notice → LogLine
  | .noInstalledTemplate =>
    { level := .debug, message := "no installed template found, using built-in template" }
  | .installedTemplate path =>
    { level := .debug, message := "using installed template", values := [("path", path)] }
  | .decodedType name kind =>
    { level := .debug, message := "decoded type"
      values := [("name", name), ("kind", Text.quoted kind)] }
  | .decodedFile path types =>
    { level := .debug, message := "decoded schema file"
      values := [("path", path), ("types", toString types)] }
  | .skippedFile d =>
    { level := .debug, message := "skipping schema file"
      values := [("path", d.error.path), ("error", d.error.message)] }
  | .redefined r =>
    { level := .warn, message := "type redefined, later definition wins"
      values := [("name", r.name), ("first", r.first), ("second", r.second)] }
  | .loaded types skipped =>
    { level := .info, message := "schema loaded"
      values := [("types", toString types), ("skipped", toString skipped)] }
  | .rendering template types =>
    { level := .debug, message := "rendering template"
      values := [("template", template), ("types", toString types)] }
  | .generated octets =>
    { level := .debug, message := "generated output", values := [("bytes", toString octets)] }
  | .someSkipped files =>
    { level := .warn, message := "some schema files failed to decode and were skipped"
      values := [("skipped", toString files)] }

end Schemata.Cli
