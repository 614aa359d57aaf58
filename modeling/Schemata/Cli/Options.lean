import Schemata.Catalog

/-!
# Options

The words of a command line and the options they set. Words are taken in order, so a request for
help counts only if nothing was wrong before it.
-/

namespace Schemata.Cli

structure Options where
  files : List String := []
  template : Option String := none
  typeMap : Option String := none
  merge : Option Collision := none
  debug : Bool := false
deriving DecidableEq, Repr, Inhabited

/-- Why words are no command line. -/
inductive UsageFault where
  | unknownOption (name : String)
  | unexpectedWord (word : String)
  | missingValue (option : String)
  | emptyValue (option : String)
  | repeated (option : String)
  /-- A value for an option that takes none. -/
  | unwantedValue (option : String)
  | unknownPolicy (policy : String)
  | noFiles
deriving DecidableEq, Repr

def UsageFault.message : UsageFault → String
  | .unknownOption name => s!"unknown option '{name}'"
  | .unexpectedWord word => s!"unexpected argument '{word}'"
  | .missingValue option => s!"option '{option}' needs a value"
  | .emptyValue option => s!"option '{option}' needs a value that is not empty"
  | .repeated option => s!"option '{option}' is given more than once"
  | .unwantedValue option => s!"option '{option}' takes no value"
  | .unknownPolicy policy => s!"'{policy}' is no merge policy: error and override are"
  | .noFiles => "no files are given: option '--files' is required"

/-- Why nothing is run. -/
inductive Refusal where
  | help
  | usage (fault : UsageFault)
deriving DecidableEq, Repr

def usageText : String :=
  "Generate C++ struct types from a list of YAML type schemas\n\n" ++
  "Usage: ac-types [OPTIONS] --files <FILES>...\n\n" ++
  "Options:\n" ++
  "  -f, --files <FILES>...     Files to generate types from\n" ++
  "  -t, --template <TEMPLATE>  Template file to render instead of the installed one\n" ++
  "      --type-map <TYPE_MAP>  Type map for the c_type filter (TOML format)\n" ++
  "      --merge <MERGE>        Merge definitions from every file: error or override\n" ++
  "  -d, --debug                Debug mode: log each file and decoded type to stderr\n" ++
  "  -h, --help                 Print help\n"

/-! ## Words -/

inductive Word where
  /-- Two dashes alone. No option follows them. -/
  | stop
  | long (name : String) (value : Option String)
  | short (flags : List Char)
  | plain (text : String)
deriving DecidableEq, Repr

/-- Splits at the first equals sign. -/
def splitAssignment (cs : List Char) : String × Option String :=
  match cs.span (· != '=') with
  | (name, _ :: value) => (String.ofList name, some (String.ofList value))
  | (name, []) => (String.ofList name, none)

def Word.ofString (s : String) : Word :=
  match s.toList with
  | ['-', '-'] => .stop
  | '-' :: '-' :: cs =>
    let (name, value) := splitAssignment cs
    .long name value
  | '-' :: c :: cs => .short (c :: cs)
  | _ => .plain s

/-! ## Settings -/

/-- Options that take a value. -/
inductive Setting where
  | files | template | typeMap | merge
deriving DecidableEq, Repr

def Setting.name : Setting → String
  | .files => "--files"
  | .template => "--template"
  | .typeMap => "--type-map"
  | .merge => "--merge"

def Setting.ofLong? : String → Option Setting
  | "files" => some .files
  | "template" => some .template
  | "type-map" => some .typeMap
  | "merge" => some .merge
  | _ => none

def Setting.ofShort? : Char → Option Setting
  | 'f' => some .files
  | 't' => some .template
  | _ => none

/-- The value of an option that can be set once. -/
def setOnce (setting : Setting) (old : Option α) (value : α) : Except Refusal (Option α) :=
  match old with
  | some _ => .error (.usage (.repeated setting.name))
  | none => .ok (some value)

def policy? : String → Option Collision
  | "error" => some .error
  | "override" => some .override
  | _ => none

namespace Options

/-- Gives an option a value. Files add up. -/
def set (o : Options) (setting : Setting) (value : String) : Except Refusal Options := do
  if value.isEmpty then throw (.usage (.emptyValue setting.name))
  match setting with
  | .files => return { o with files := o.files ++ [value] }
  | .template => return { o with template := ← setOnce setting o.template value }
  | .typeMap => return { o with typeMap := ← setOnce setting o.typeMap value }
  | .merge =>
    match policy? value with
    | none => throw (.usage (.unknownPolicy value))
    | some policy => return { o with merge := ← setOnce setting o.merge policy }

def setDebug (o : Options) : Except Refusal Options :=
  if o.debug then .error (.usage (.repeated "--debug")) else .ok { o with debug := true }

end Options

/-! ## Command lines -/

/-- What a plain word is taken for. -/
inductive Awaited where
  | nothing
  /-- The value of an option, which has to come. -/
  | value (setting : Setting)
  /-- One more file. -/
  | moreFiles
deriving DecidableEq, Repr

/-- Checks that no value has to come. -/
def Awaited.settle : Awaited → Except Refusal Unit
  | .value setting => .error (.usage (.missingValue setting.name))
  | _ => .ok ()

/-- Takes the letters behind one dash. An option that takes a value takes the letters behind
it. -/
def takeShort (o : Options) : List Char → Except Refusal (Awaited × Options)
  | [] => .ok (.nothing, o)
  | c :: cs =>
    match Setting.ofShort? c with
    | some setting =>
      match cs with
      | [] => .ok (.value setting, o)
      | '=' :: value => do return (.nothing, ← o.set setting (String.ofList value))
      | value => do return (.nothing, ← o.set setting (String.ofList value))
    | none =>
      if c == 'h' then .error .help
      else if c == 'd' then do takeShort (← o.setDebug) cs
      else .error (.usage (.unknownOption (String.ofList ['-', c])))

/-- Takes an option behind two dashes. -/
def takeLong (o : Options) (name : String) (value : Option String) :
    Except Refusal (Awaited × Options) :=
  match Setting.ofLong? name, value with
  | some setting, none => .ok (.value setting, o)
  | some setting, some value => do return (.nothing, ← o.set setting value)
  | none, value =>
    if name == "help" || name == "debug" then
      match value with
      | some _ => .error (.usage (.unwantedValue ("--" ++ name)))
      | none => if name == "help" then .error .help else do return (.nothing, ← o.setDebug)
    else .error (.usage (.unknownOption ("--" ++ name)))

/-- Takes a word that is no option. -/
def takePlain (awaited : Awaited) (o : Options) (text : String) :
    Except Refusal (Awaited × Options) :=
  match awaited with
  | .nothing => .error (.usage (.unexpectedWord text))
  | .value .files | .moreFiles => do return (.moreFiles, ← o.set .files text)
  | .value setting => do return (.nothing, ← o.set setting text)

/-- Takes words in order. -/
def takeWords (awaited : Awaited) (o : Options) : List String → Except Refusal Options
  | [] => do
    awaited.settle
    return o
  | s :: rest =>
    match Word.ofString s with
    | .stop => do
      awaited.settle
      match rest with
      | [] => return o
      | word :: _ => throw (.usage (.unexpectedWord word))
    | .long name value => do
      awaited.settle
      let (awaited, o) ← takeLong o name value
      takeWords awaited o rest
    | .short flags => do
      awaited.settle
      let (awaited, o) ← takeShort o flags
      takeWords awaited o rest
    | .plain text => do
      let (awaited, o) ← takePlain awaited o text
      takeWords awaited o rest

/-- The options that words set. -/
def Options.parse (words : List String) : Except Refusal Options := do
  let o ← takeWords .nothing {} words
  if o.files.isEmpty then throw (.usage .noFiles) else return o

end Schemata.Cli
