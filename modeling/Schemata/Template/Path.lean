import Schemata.Data.Access
import Schemata.Text.Utf8

/-!
# Paths

A written path leads into data by steps between points. A step in quotes may hold points, and a
bracket ends the step before it. In a step `~1` stands for a slash and `~0` for a tilde.
-/

namespace Schemata

namespace Path

/-- Puts slashes and tildes back: first every slash, then every tilde. -/
def unescape (step : List Char) : List Char := replace '0' '~' (replace '1' '/' step)
where
  replace (mark c : Char) : List Char → List Char
    | '~' :: d :: rest =>
      if d == mark then c :: replace mark c rest else '~' :: replace mark c (d :: rest)
    | d :: rest => d :: replace mark c rest
    | [] => []

/-- The first step of a path, the quote that is open behind it, and the rest of the path. -/
structure Cut where
  step : Option (List UInt8)
  quote : Option Char
  rest : List UInt8

/-- Looks for the mark that ends a step; `c` is the character number `i`, and the step begins at
`first`. The octets are cut where the count of characters stands, so beyond ASCII a step ends
early. -/
def cutFrom (octets : List UInt8) (quote : Option Char) (first i : Nat) : List Char → Cut
  | [] =>
    let step := octets.drop first
    { step := if step.isEmpty then none else some step, quote, rest := [] }
  | c :: cs =>
    let mark (quote : Option Char) (mayBeEmpty : Bool) : Cut :=
      if i = first && !mayBeEmpty then cutFrom octets quote (i + 1) (i + 1) cs
      else { step := some ((octets.take i).drop first), quote, rest := octets.drop (i + 1) }
    match quote with
    | some q =>
      if c == q then mark none false else cutFrom octets (some q) first (i + 1) cs
    | none =>
      if c == '"' || c == '\'' then mark (some c) false
      else if c == '.' then mark none false
      else if c == '[' then mark none true
      else if c == ']' && i = first then mark none false
      else cutFrom octets none first (i + 1) cs

theorem length_rest_cutFrom (octets : List UInt8) (cs : List Char) (h : octets ≠ [])
    (quote : Option Char) (first i : Nat) :
    (cutFrom octets quote first i cs).rest.length < octets.length := by
  have pos := List.length_pos_iff.2 h
  induction cs generalizing quote first i with
  | nil => simpa [cutFrom] using pos
  | cons c cs ih =>
    have drop_lt : (octets.drop (i + 1)).length < octets.length := by simp; omega
    cases quote <;> simp only [cutFrom] <;> grind

/-- The octets of the steps of a path. -/
def stepsFrom (quote : Option Char) (octets : List UInt8) : List (List UInt8) :=
  if _h : octets = [] then []
  else
    let cut := cutFrom octets quote 0 0 (Text.Utf8.decodeLossy octets).toList
    cut.step.toList ++ stepsFrom cut.quote cut.rest
termination_by octets.length
decreasing_by exact length_rest_cutFrom octets _ _h _ _ _

/-- The steps of a path. -/
def steps (path : String) : List String :=
  (stepsFrom none path.toUTF8.toList).map fun step =>
    String.ofList (unescape (Text.Utf8.decodeLossy step).toList)

/-- The first name of a path, and what follows its point if there is one. -/
def split (path : String) : String × Option String :=
  let name := path.toList.takeWhile (· != '.')
  match path.toList.drop name.length with
  | [] => (path, none)
  | _ :: rest => (String.ofList name, some (String.ofList rest))

end Path

/-- The part of data that a path leads to. -/
def Data.at? (path : String) (d : Data) : Option Data := d.part? (Path.steps path)

end Schemata
