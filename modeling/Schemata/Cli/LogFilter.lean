import Schemata.Cli.Log
import Schemata.Number.Numeral
import Schemata.Text.Pattern

/-!
# Log filters

A filter decides which lines are logged. Each of its directives sets the level below a target,
perhaps only for the lines that hold a value of a name, and the narrowest directive about a line
decides. `Filter.ofSetting` reads a filter from directives with commas between them, such as
`info,disk=debug,page[{name}]=trace`.
-/

namespace Schemata.Cli

/-- The lines that a directive is about, of those below its target. -/
inductive Scope where
  | all
  /-- Those that hold a value of the name. -/
  | holding (name : String)
  /-- Those inside a span. The program opens none. -/
  | span
deriving DecidableEq, Repr, Inhabited

/-- Sets the highest rank of the lines to show below a target, or everywhere. -/
structure Directive where
  target : Option String := none
  scope : Scope := .all
  rank : Nat
deriving DecidableEq, Repr

abbrev Filter := List Directive

/-! ## Reading -/

/-- The rank that a level is called by: its number, or its name in any case. -/
def rank? (s : String) : Option Nat :=
  let digits := match s.toList with
    | '+' :: rest => rest
    | cs => cs
  match Numeral.natural? 10 digits with
  | some n => if n ≤ Level.trace.rank then some n else none
  | none =>
    match s.toLower with
    | "off" => some 0
    | "error" => some Level.error.rank
    | "warn" => some Level.warn.rank
    | "info" => some Level.info.rank
    | "debug" => some Level.debug.rank
    | "trace" => some Level.trace.rank
    | _ => none

/-- The rank of a level that may be left out. -/
def rankOr? (s : String) : Option Nat := if s.isEmpty then some Level.trace.rank else rank? s

/-- What is left to read of a directive. Marks are looked for in the text without the blanks around
it, but words are cut from the whole text at the same places. -/
structure Unread where
  marks : List Char
  whole : List Char

namespace Unread

def ofText (s : String) : Unread :=
  let blankless := s.toList.dropWhile Text.isWhitespace
  { marks := (blankless.reverse.dropWhile Text.isWhitespace).reverse, whole := s.toList }

def next (u : Unread) : Unread := { marks := u.marks.drop 1, whole := u.whole.drop 1 }

/-- The word up to a mark, the mark, and what comes behind it. Without a mark the word is all that
is left. -/
def cut (u : Unread) (isMark : Char → Bool) : String × Option Char × Unread :=
  let width := (u.marks.takeWhile (!isMark ·)).length
  match u.marks.drop width with
  | [] => (String.ofList u.whole, none, { marks := [], whole := [] })
  | mark :: marks =>
    (String.ofList (u.whole.take width), some mark, { marks, whole := u.whole.drop (width + 1) })

/-- Reads the level behind an equals sign. -/
def level? (u : Unread) : Option Nat := rankOr? (String.ofList u.whole)

/-- Reads what follows a bracket: nothing, or a level. -/
def afterBracket? (u : Unread) : Option Nat :=
  match u.marks with
  | [] => some Level.trace.rank
  | '=' :: _ => u.next.level?
  | _ :: _ => none

end Unread

/-- Whether a value can be asked for: a number, or a pattern. -/
def isLogValue (s : String) : Bool :=
  (Numeral.double? s.toList).isSome || (Text.Pattern.read s).isOk

/-- Reads what a directive asks for between braces: a name, or a name and the value that a span has
for it. -/
def scope? (s : String) : Option Scope :=
  match s.splitOn "=" with
  | [name] => if name.isEmpty then none else some (.holding name)
  | _ :: value :: _ => if isLogValue value then some .span else none
  | [] => none

/-- Reads the rest of a directive from behind a bracket: the name of a span, what is asked for in
braces, or both, and a level. -/
def bracketed? (target : Option String) (u : Unread) : Option Directive := do
  match u.cut fun c => c == ']' || c == '{' with
  | (_, some ']', u) => return { target, scope := .span, rank := ← u.afterBracket? }
  | (name, some _, u) =>
    let (asked, mark, u) := u.cut (· == '}')
    let scope ← scope? asked
    if mark.isSome && u.marks.head? == some ']' then
      return { target, scope := if name.isEmpty then scope else .span,
               rank := ← u.next.afterBracket? }
    else none
  | (_, none, _) => none

/-- Characters that a target or a level may begin with. -/
def beginsWord (c : Char) : Bool := c == '-' || c == ':' || c == '_' || Text.isAlphanumeric c

/-- Reads a directive. A word alone is a level if it can be, and else a target. -/
def directive? (s : String) : Option Directive := do
  let u := Unread.ofText s
  let first ← u.marks.head?
  if first == '[' then bracketed? none u.next
  else if beginsWord first then
    match u.cut fun c => c == '=' || c == '[' with
    | (word, none, _) =>
      match rank? word with
      | some rank => return { rank }
      | none => return { target := some word, rank := Level.trace.rank }
    | (target, some '=', u) => return { target := some target, rank := ← u.level? }
    | (target, some _, u) => bracketed? (some target) u
  else none

/-- Reads directives with commas between them. -/
def filter? (s : String) : Option Filter :=
  ((s.splitOn ",").filter (!·.isEmpty)).mapM directive?

/-! ## Deciding -/

namespace Directive

/-- Whether a directive is about a line from a target. -/
def isAbout (d : Directive) (target : String) (line : LogLine) : Bool :=
  d.target.all (fun front => front.toList.isPrefixOf target.toList) &&
    match d.scope with
    | .all => true
    | .holding name => line.holds name
    | .span => false

/-- How much the target narrows a directive down. -/
def weight (d : Directive) : Nat :=
  match d.target with
  | none => 0
  | some front => front.utf8ByteSize + 1

/-- Whether a directive comes before another that is about the same line: it is at least as narrow.
Names of values are narrower the later they come in the dictionary. -/
def outranks (d other : Directive) : Bool :=
  other.weight < d.weight ||
    other.weight == d.weight &&
      match other.scope, d.scope with
      | .holding name, .holding later => name ≤ later
      | .holding _, _ => false
      | _, _ => true

end Directive

/-- The directive that decides about a line: the narrowest, and of those the last. -/
def Filter.deciding? (f : Filter) (target : String) (line : LogLine) : Option Directive :=
  (f.filter (·.isAbout target line)).foldl (fun best d =>
    match best with
    | none => some d
    | some b => if d.outranks b then some d else some b) none

/-- Whether the line of a notice is shown. -/
def Filter.shows (f : Filter) (n : Notice) : Bool :=
  let line := logLine n
  (f.deciding? (logTarget n) line).any fun d => line.level.rank ≤ d.rank

/-- The filter in use when none is set. -/
def Filter.standard (debug : Bool) : Filter :=
  [{ target := some logName, rank := (if debug then Level.debug else Level.warn).rank }]

/-- The filter that a setting asks for. One that cannot be read counts as none. -/
def Filter.ofSetting (setting : Option String) (debug : Bool) : Filter :=
  (setting.bind filter?).getD (.standard debug)

end Schemata.Cli
