import Schemata.Toml.Document

/-!
# Problems of TOML texts

A `Problem` is shown with the line it is on and carets below the stretch at fault.
-/

namespace Schemata.Toml

/-- What is wrong with a stretch of text. -/
inductive Complaint where
  | malformed (fault : Fault)
  /-- An item of another kind than expected; both are described. -/
  | wrongKind (found expected : String)
  | wrongLength (length : Nat) (expected : String)
deriving DecidableEq, Repr

def Complaint.message : Complaint → String
  | .malformed fault => fault.message
  | .wrongKind found expected => s!"invalid type: {found}, expected {expected}"
  | .wrongLength length expected => s!"invalid length {length}, expected {expected}"

structure Problem where
  span : Span
  complaint : Complaint
deriving DecidableEq, Repr

/-! ## Places in the text -/

/-- A line that holds an offset: its number counted from zero, how far into it the offset is, and
the line from there on. `before` is what has been passed of it, last character first. -/
structure Located where
  line : Nat
  before : List Char
  rest : List Char

/-- Goes to the character at an offset, or to the last one. -/
def locate (line : Nat) (before : List Char) : Nat → List Char → Located
  | _, [] => { line, before, rest := [] }
  | _, [c] => { line, before, rest := [c] }
  | offset, c :: d :: rest =>
    if offset < c.utf8Size then { line, before, rest := c :: d :: rest }
    else if c == '\n' then locate (line + 1) [] (offset - c.utf8Size) (d :: rest)
    else locate line (c :: before) (offset - c.utf8Size) (d :: rest)

/-- How many columns stand in front of an offset. In front of a character outside ASCII octets
are counted. -/
def Located.column (l : Located) (isAtEnd : Bool) : Nat :=
  if isAtEnd then l.before.length + 1
  else
    match l.rest with
    | c :: _ => if c.utf8Size = 1 then l.before.length else octetCount l.before
    | [] => l.before.length

/-- The whole line. -/
def Located.text (l : Located) : List Char := l.before.reverse ++ l.rest.takeWhile (· != '\n')

namespace Problem

/-- The problem as it is shown, with the line of the source it is on. -/
def message (p : Problem) (source : String) : String :=
  let cs := source.toList
  let isAtEnd := octetCount cs ≤ p.span.start && !cs.isEmpty
  let l := locate 0 [] p.span.start cs
  let column := l.column isAtEnd
  let number := toString (l.line + 1)
  let margin := "".pushn ' ' (number.length + 1) ++ "|"
  let carets := max 1 (min (p.span.stop - p.span.start) (octetCount l.text - column))
  s!"TOML parse error at line {number}, column {column + 1}\n" ++
    margin ++ "\n" ++
    number ++ " | " ++ String.ofList l.text ++ "\n" ++
    margin ++ "".pushn ' ' (column + 1) ++ "".pushn '^' carets ++ "\n" ++
    p.complaint.message ++ "\n"

/-- The problem of a refusal: the stretch is the character there. -/
def ofRefusal (fault : Fault) (place : Place) : Problem :=
  { span := { start := place.offset, stop := place.offset + octetCount (place.rest.take 1) }
    complaint := .malformed fault }

end Problem

/-- Reads the text of a document. -/
def read (source : String) : Except Problem Entries :=
  match Reader.document { offset := 0, rest := source.toList } with
  | .done entries _ => .ok entries
  | .refused _ fault place => .error (.ofRefusal fault place)

end Schemata.Toml
