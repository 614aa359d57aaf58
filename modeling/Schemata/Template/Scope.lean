import Schemata.Template
import Schemata.Template.Page
import Schemata.Template.Path
import Schemata.Text.Search
import Schemata.TypeMap

/-!
# Variables in scope

Variables are looked up in frames, innermost first, and then in the context that the template is
rendered with; nothing below the call of a macro is seen in it. `Env.valueAt` resolves a written
path: steps in brackets that are paths themselves are evaluated first.
-/

namespace Schemata.Template

/-- What a rendering does not change. -/
structure Env where
  template : Template
  context : Fields
  types : TypeMap

/-- Looks up a path whose first name a function knows. -/
def partBy (known : String → Option Data) (path : String) : Option Data :=
  match Path.split path with
  | (name, none) => known name
  | (name, some rest) => (known name).bind (Data.at? rest)

namespace Loop

/-- What `loop` knows. -/
def counter? (l : Loop) : String → Option Data
  | "loop.index" => some (.number (.int (l.index + 1)))
  | "loop.index0" => some (.number (.int l.index))
  | "loop.first" => some (.bool (l.index == 0))
  | "loop.last" => some (.bool (l.index + 1 == l.count))
  | _ => none

def lookup (l : Loop) (path : String) : Option Data :=
  match l.counter? path with
  | some d => some d
  | none =>
    if l.key == some path && l.name != path then l.item?.map fun item => .string item.1
    else partBy (fun name => if name == l.name then l.item?.map (·.2) else none) path

end Loop

namespace Frame

def lookup (f : Frame) (path : String) : Option Data :=
  (partBy f.vars.get? path).or (f.loop?.bind (·.lookup path))

/-- The frames that are seen from the innermost one. -/
def seen : List Frame → List Frame
  | [] => []
  | f :: rest => if f.call?.isSome then [f] else f :: seen rest

/-- The variables of a frame. -/
def all (f : Frame) : Fields :=
  match f.loop? with
  | none => f.vars
  | some l =>
    f.vars ++ l.item?.toList.flatMap fun (key, d) =>
      (l.name, d) :: l.key.toList.map fun name => (name, .string key)

end Frame

namespace Env

def lookup (env : Env) (frames : List Frame) (path : String) : Option Data :=
  ((Frame.seen frames).findSome? (·.lookup path)).or (partBy env.context.get? path)

/-! ## Steps in brackets -/

/-- The text up to the bracket that closes `depth` open ones, and what follows it. -/
def insideBracket (depth : Nat) (acc : List Char) : List Char → Option (List Char × List Char)
  | [] => none
  | c :: rest =>
    let depth := if c == ']' then depth - 1 else if c == '[' then depth + 1 else depth
    if depth = 0 then some (acc.reverse, rest) else insideBracket depth (c :: acc) rest

/-- Whether a text spells a number that can be an index. -/
def isIndex (text : List Char) : Bool :=
  let digits := if text.head? == some '+' then text.tail else text
  !digits.isEmpty && digits.all Char.isDigit && IntRange.nat64.holds (natOf digits)

/-- The texts in brackets that have to be evaluated: those that neither begin with a quote nor are
an index. The first character of a text opens and closes no bracket. -/
def innerPaths : Nat → List Char → List String
  | 0, _ => []
  | fuel + 1, cs =>
    match cs with
    | [] => []
    | '[' :: c :: rest =>
      if c == '"' || c == '\'' then innerPaths fuel rest
      else
        match insideBracket 1 [c] rest with
        | none => []
        | some (inside, rest) =>
          if isIndex inside then innerPaths fuel rest
          else String.ofList inside :: innerPaths fuel rest
    | _ :: rest => innerPaths fuel rest

/-- Replaces the first occurrence of a text. Where there is none, the replacement comes last: a step
whose bracket an earlier one took along still counts. -/
def replaceFirst (pattern replacement s : String) : String :=
  match Text.split pattern s with
  | first :: rest => first ++ replacement ++ pattern.intercalate rest
  | [] => s

/-- Turns the brackets that are left into points. -/
def flattenBrackets (path : String) : String :=
  [("/", "~1"), ("['", ".\""), ("[\"", ".\""), ("[", "."), ("']", "\""), ("\"]", "\""),
    ("]", "")].foldl (fun s (pattern, replacement) => Text.replace pattern replacement s) path

/-- How a value stands in a path. -/
def stepText? : Data → Option String
  | .string s => some ("\"" ++ s ++ "\"")
  | .number n => some (n.write .data)
  | _ => none

/-- Puts the values of inner paths in the place of their brackets. -/
def evaluateSteps (valueOf : String → Except Fault Data) (path : String) :
    List String → String → Except Fault String
  | [], text => .ok text
  | inner :: rest, text =>
    match valueOf inner with
    | .error cause => .error (.noStep path cause)
    | .ok d =>
      match stepText? d with
      | none => .error (.notAStep inner path)
      | some step =>
        evaluateSteps valueOf path rest (replaceFirst ("[" ++ inner ++ "]") ("." ++ step) text)

/-- The value at a path whose brackets are nested less deep than the bound. -/
def valueWithin (env : Env) (frames : List Frame) : Nat → String → Except Fault Data
  | 0, path => .error (.unknownVariable path env.template.name)
  | depth + 1, path =>
    if path.toList.contains '[' then do
      let inner := innerPaths path.length path.toList
      let text ← evaluateSteps (env.valueWithin frames depth) path inner path
      let evaluated := flattenBrackets text
      match env.lookup frames evaluated with
      | some d => return d
      | none => throw (.unknownPart path env.template.name evaluated)
    else
      match env.lookup frames path with
      | some d => .ok d
      | none => .error (.unknownVariable path env.template.name)

/-- The name under which everything in scope is shown. -/
def wholeContext : String := "__tera_context"

/-- Puts an entry in its place among sorted names. -/
def insertSorted (name : String) (d : Data) : Fields → Fields
  | [] => [(name, d)]
  | (n, e) :: rest =>
    if name == n then (name, d) :: rest
    else if name < n then (name, d) :: (n, e) :: rest
    else (n, e) :: insertSorted name d rest

/-- Everything in scope, by name; an outer frame wins over an inner one. In a macro the context is
no part of it. -/
def everything (env : Env) (frames : List Frame) : Data :=
  let seen := Frame.seen frames
  let given := if seen.any (·.call?.isSome) then [] else env.context
  .object ((given ++ seen.flatMap Frame.all).foldl
    (fun acc e => insertSorted e.1 e.2 acc) [])

/-- The value of a variable or of a path into it. -/
def valueAt (env : Env) (frames : List Frame) (path : String) : Except Fault Data :=
  if path == wholeContext then .ok (.string (env.everything frames).prettyJson)
  else env.valueWithin frames (path.length + 1) path

end Env

end Schemata.Template
