import Schemata.Yaml.Error

/-!
# Reading characters

A `Cursor` is the rest of a document and the position it starts at. At the end of the document
the tests for blanks and breaks that say `OrEnd` hold.
-/

namespace Schemata.Yaml

def isBreak (c : Char) : Bool :=
  c == '\n' || c == '\r' || c == '\u0085' || c == '\u2028' || c == '\u2029'

def isBlank (c : Char) : Bool := c == ' ' || c == '\t'

/-- The characters of names, handles and directives. -/
def isNameChar (c : Char) : Bool := c.isAlphanum || c == '_' || c == '-'

def breakOrEnd : List Char → Bool
  | [] => true
  | c :: _ => isBreak c

def blankOrEnd : List Char → Bool
  | [] => true
  | c :: _ => isBlank c || isBreak c

/-- Whether the text starts with a line that begins or ends a document. -/
def atDocumentIndicator : List Char → Bool
  | '-' :: '-' :: '-' :: rest => blankOrEnd rest
  | '.' :: '.' :: '.' :: rest => blankOrEnd rest
  | _ => false

/-- The value of a hexadecimal digit. -/
def hexValue? (c : Char) : Option Nat :=
  if c.isDigit then some (c.toNat - '0'.toNat)
  else if 'a' ≤ c && c ≤ 'f' then some (c.toNat - 'a'.toNat + 10)
  else if 'A' ≤ c && c ≤ 'F' then some (c.toNat - 'A'.toNat + 10)
  else none

structure Cursor where
  rest : List Char
  mark : Mark := {}
deriving Repr, Inhabited

namespace Cursor

def peek (s : Cursor) : Option Char := s.rest.head?

def isAt (s : Cursor) (c : Char) : Bool := s.rest.head? == some c

/-- Moves past a character that ends no line. -/
def next (s : Cursor) : Cursor :=
  match s.rest with
  | [] => s
  | c :: rest => { rest, mark := s.mark.past c }

def advance (s : Cursor) : Nat → Cursor
  | 0 => s
  | n + 1 => s.next.advance n

/-- Reads a line break, if one stands here. All but the two separators of paragraphs and lines
are read as a line feed. -/
def readBreak (s : Cursor) : List Char × Cursor :=
  match s.rest with
  | '\r' :: '\n' :: rest => (['\n'], { rest, mark := s.mark.pastBreak 2 })
  | c :: rest =>
    if c == '\u2028' || c == '\u2029' then ([c], { rest, mark := s.mark.pastBreak c.utf8Size })
    else if isBreak c then (['\n'], { rest, mark := s.mark.pastBreak c.utf8Size })
    else ([], s)
  | [] => ([], s)

def skipBreak (s : Cursor) : Cursor := s.readBreak.2

/-- Splits off the longest front part whose characters satisfy `p`; none of them may end a
line. -/
def spanFrom (p : Char → Bool) (mark : Mark) : List Char → List Char × Cursor
  | [] => ([], { rest := [], mark })
  | c :: rest =>
    if p c then
      let (front, s) := spanFrom p (mark.past c) rest
      (c :: front, s)
    else ([], { rest := c :: rest, mark })

def span (s : Cursor) (p : Char → Bool) : List Char × Cursor := spanFrom p s.mark s.rest

def skipWhile (s : Cursor) (p : Char → Bool) : Cursor := (s.span p).2

def skipBlanks (s : Cursor) : Cursor := s.skipWhile isBlank

/-- Moves to the end of the line if a comment starts here. -/
def skipComment (s : Cursor) : Cursor :=
  if s.isAt '#' then s.skipWhile (!isBreak ·) else s

/-- An error found here in the course of something begun earlier. -/
def fail {α : Type} (s : Cursor) (problem : Problem) (activity : Activity) (since : Mark) :
    Except Error α :=
  .error (.malformed problem s.mark (some (activity, since)))

end Cursor

end Schemata.Yaml
