import Schemata.Cli

/-!
# The program

Reads the files that the command line names, runs it, and prints what comes of it.
-/

open Schemata

/-- Why reading a file failed. -/
def readFault : IO.Error → ReadFault
  | .noFileOrDirectory .. => .notFound
  | .inappropriateType _ code reason =>
    if code == 20 then .notADirectory
    else if code == 21 then .isDirectory
    else .other reason
  | e => .other (toString e)

/-- Reads a file. -/
def readFile (path : String) : IO (Except ReadFault (List UInt8)) := do
  try
    return .ok (← IO.FS.readBinFile path).toList
  catch e => return .error (readFault e)

/-- The directory that the program runs in. -/
def currentDirectory : IO (Except ReadFault String) := do
  try
    return .ok (toString (← IO.currentDir))
  catch e => return .error (readFault e)

/-- The directory that the program is in. -/
def programDirectory : IO (Option String) := do
  try
    return (← IO.appPath).parent.map toString
  catch _ => return none

/-- Whether a path leads to a file. -/
def isFile (path : String) : IO Bool := do
  try
    let found ← (← IO.FS.realPath path).metadata
    return found.type == .file
  catch _ => return false

/-- The files at some paths. -/
def readDisk (paths : List String) : IO Disk := do
  let found ← paths.mapM fun path => do return (path, ← readFile path)
  return fun path => (found.lookup path).getD (.error .notFound)

def printRefusal : Cli.Refusal → IO UInt32
  | .help => do
    IO.print Cli.usageText
    return 0
  | .usage fault => do
    IO.eprint ("error: " ++ fault.message ++ "\n\n" ++ Cli.usageText)
    return 2

def main (words : List String) : IO UInt32 := do
  match Cli.Options.parse words with
  | .error refusal => printRefusal refusal
  | .ok options => do
    let programDirectory ← programDirectory
    let installed := programDirectory.map TemplateSource.installedPath
    let files ← installed.toList.filterM isFile
    let world : Cli.World :=
      { disk := ← readDisk (options.paths programDirectory)
        isFile := files.contains
        directory := ← currentDirectory
        programDirectory
        logSetting := ← IO.getEnv "RUST_LOG" }
    let finished := Cli.runOptions world options
    -- Milliseconds of a clock that never goes back.
    let time := toString (← IO.monoMsNow)
    for shown in finished.shown do
      IO.eprint (shown.render time)
    IO.print finished.output
    return UInt32.ofNat finished.status
