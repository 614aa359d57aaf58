import Schemata.Number.Numeral
import Schemata.Template.Filter.Argument
import Schemata.Text.Grapheme
import Schemata.Text.Search
import Schemata.Text.Words
import Schemata.TypeMap

/-!
# Filters of strings
-/

namespace Schemata.Template.Filter

/-- A filter that maps strings to strings. -/
def onString (name : String) (f : String → String) : Filter := fun d _ => do
  return .string (f (← value name .string Data.string? d))

/-- Like `onString`, for the casings and types of this program, whose fault is worded
differently. -/
def onText (name : String) (f : String → String) : Filter := fun d _ =>
  match d with
  | .string s => .ok (.string (f s))
  | d => .error (.notText name d)

/-- In separators, a backslash with `n` or `t` means a line feed or a tab. -/
def unescape (s : String) : String := Text.replace "\\t" "\t" (Text.replace "\\n" "\n" s)

/-- A filter by a string and a pattern. -/
def onPattern (name : String) (f : String → String → Data) : Filter := fun d args => do
  let s ← value name .string Data.string? d
  let pattern ← expected name "pat" args
  return f (unescape pattern) s

def replace : Filter := fun d args => do
  let s ← value "replace" .string Data.string? d
  let pattern ← expected "replace" "from" args
  let replacement ← expected "replace" "to" args
  return .string (Text.replace pattern replacement s)

def truncate : Filter := fun d args => do
  let s ← value "truncate" .string Data.string? d
  let length ← withDefault "truncate" "length" .nat64 Data.nat64? args 255
  let ending ← withDefault "truncate" "end" .string Data.string? args "…"
  let clusters := Text.graphemes s
  if clusters.length ≤ length then return .string s
  else return .string (String.join (clusters.take length) ++ ending)

def wordcount : Filter := fun d _ => do
  return ofInt (Text.wordCount (← value "wordcount" .string Data.string? d))

/-- Puts the indentation in front of the lines behind the first one. -/
def indentRest (indent : String) (blank : Bool) (lines : List String) : List String :=
  lines.map fun line =>
    if blank || !(Text.trimStart line).isEmpty then indent ++ line else line

def indent : Filter := fun d args => do
  let s ← value "indent" .string Data.string? d
  let indent ← withDefault "indent" "prefix" .string Data.string? args "    "
  let first ← withDefault "indent" "first" .bool Data.bool? args false
  let blank ← withDefault "indent" "blank" .bool Data.bool? args false
  match Text.lines s with
  | [] => return .string ""
  | line :: rest =>
    let line := if first then indent ++ line else line
    return .string ("\n".intercalate (line :: indentRest indent blank rest))

/-- The sign in front of numerals of a base. -/
def baseMark (base : Nat) : Option String :=
  match base with
  | 2 => some "0b"
  | 8 => some "0o"
  | 16 => some "0x"
  | _ => none

/-- The integer nearest to zero of a double, within sixty-four bits. -/
def clampInt (d : Double) : Int :=
  if d.isNaN then 0
  else if d.isFinite then IntRange.int64.clamp d.truncate
  else if d.isNegative then IntRange.int64.low else IntRange.int64.high

/-- The integer that a text spells in a base; a decimal point cuts the text off. -/
def intOfText (base : Nat) (s : String) : Option Int :=
  let s := Text.trim s
  let s := (baseMark base).elim s (Text.trimStartMatches · s)
  match (Numeral.integer? base s.toList).filter IntRange.int64.holds with
  | some i => some i
  | none => if s.toList.contains '.' then (Numeral.double? s.toList).map clampInt else none

def int : Filter := fun d args => do
  let default ← withDefault "int" "default" .int64 Data.int64? args 0
  let base ← withDefault "int" "base" .nat32 Data.nat32? args 10
  match d with
  | .string s => return ofInt ((intOfText base s).getD default)
  | .number n => return ofInt (clampInt n.toDouble)
  | _ => throw (.notConvertible "int")

/-- The double that a text spells, in digits or by name. -/
def doubleOfText (s : String) : Option Double :=
  let named (text : List Char) : Option Double :=
    let name := (String.ofList text).toLower
    if name == "inf" || name == "infinity" then some Double.infinity
    else if name == "nan" then some Double.nan
    else none
  let s := (Text.trim s).toList
  match Numeral.double? s with
  | some d => some d
  | none =>
    match s with
    | '-' :: rest => named rest
    | '+' :: rest => named rest
    | rest => named rest

def float : Filter := fun d args => do
  let default ← withDefault "float" "default" .double Data.double? args (Double.ofInt 0)
  match d with
  | .string s => return ofDouble ((doubleOfText s).getD default)
  | .number n => return ofDouble n.toDouble
  | _ => throw (.notConvertible "float")

def lineBreaks (s : String) : String :=
  Text.replace "\n" "<br>" (Text.replace "\r\n" "<br>" s)

def addSlashes (s : String) : String :=
  Text.replace "'" "\\'" (Text.replace "\"" "\\\"" (Text.replace "\\" "\\\\" s))

/-- The filters of strings that templates know under any type map. -/
def strings : List (String × Filter) :=
  [("upper", onString "upper" Text.upper),
    ("lower", onString "lower" Text.lower),
    ("trim", onString "trim" Text.trim),
    ("trim_start", onString "trim_start" Text.trimStart),
    ("trim_end", onString "trim_end" Text.trimEnd),
    ("trim_start_matches",
      onPattern "trim_start_matches" fun p s => .string (Text.trimStartMatches p s)),
    ("trim_end_matches", onPattern "trim_end_matches" fun p s => .string (Text.trimEndMatches p s)),
    ("truncate", truncate),
    ("wordcount", wordcount),
    ("replace", replace),
    ("capitalize", onString "capitalize" Text.capitalize),
    ("title", onString "title" Text.title),
    ("linebreaksbr", onString "linebreaksbr" lineBreaks),
    ("indent", indent),
    ("striptags", onString "striptags" Text.stripTags),
    ("spaceless", onString "spaceless" Text.spaceless),
    ("urlencode", onString "urlencode" Text.urlEncode),
    ("urlencode_strict", onString "urlencode_strict" Text.urlEncodeStrict),
    ("escape", onString "escape_html" Text.escapeHtml),
    ("escape_xml", onString "escape_html" Text.escapeXml),
    ("addslashes", onString "addslashes" addSlashes),
    ("split", onPattern "split" fun p s => .list ((Text.split p s).map .string)),
    ("int", int),
    ("float", float)]

/-- The casings of identifiers, and the look-up of type names. -/
def identifiers (types : TypeMap) : List (String × Filter) :=
  [("snake_case", onText "snake_case" Text.snakeCase),
    ("pascal_case", onText "pascal_case" Text.pascalCase),
    ("camel_case", onText "camel_case" Text.camelCase),
    ("shouty_snake_case", onText "shouty_snake_case" Text.shoutySnakeCase),
    ("c_type", onText "c_type" types.resolve)]

end Schemata.Template.Filter
