import Schemata.Text.Pattern.Fault

/-!
# Reading through a pattern

A `Cursor` is the rest of a pattern with the place where it begins. A reading moves it and may stop
with a fault. In a loose pattern blanks and comments are skipped.
-/

namespace Schemata.Text.Pattern

structure Cursor where
  rest : List Char
  place : Place := {}
  /-- Whether blanks and comments mean nothing. -/
  loose : Bool := false
  /-- The names of groups so far, with their spans. -/
  names : List (String × Span) := []

namespace Cursor

/-- Goes on by one character. -/
def next (c : Cursor) : Cursor :=
  match c.rest with
  | [] => c
  | ch :: rest => { c with rest, place := c.place.after ch }

/-- Skips blanks and comments. -/
def skipFrom (inComment : Bool) (place : Place) : List Char → List Char × Place
  | [] => ([], place)
  | c :: rest =>
    if inComment then skipFrom (c != '\n') (place.after c) rest
    else if isWhitespace c then skipFrom false (place.after c) rest
    else if c == '#' then skipFrom true (place.after c) rest
    else (c :: rest, place)

/-- Skips what means nothing. -/
def skip (c : Cursor) : Cursor :=
  if c.loose then
    let (rest, place) := skipFrom false c.place c.rest
    { c with rest, place }
  else c

/-- The character behind the next one, over blanks and at most one mark of a comment; at the end of
the pattern the one that stands there in any case. -/
def second? (c : Cursor) : Option Char :=
  let after := c.rest.tail
  if c.loose then
    let blankless := after.dropWhile isWhitespace
    let found := match blankless with
      | '#' :: rest => rest.dropWhile isWhitespace
      | rest => rest
    found.head?.or after.head?
  else after.head?

end Cursor

abbrev Reading := StateT Cursor (Except Fault)

namespace Reading

def fail (wrong : Wrong) (first last : Place) : Reading α :=
  throw { wrong, span := { first, last } }

def here : Reading Place := return (← get).place

def next? : Reading (Option Char) := return (← get).rest.head?

def isAtEnd : Reading Bool := return (← get).rest.isEmpty

def advance : Reading Unit := modify Cursor.next

def skip : Reading Unit := modify Cursor.skip

/-- Goes on by one character and over what means nothing, and tells whether there is more. -/
def advanceOver : Reading Bool := do
  advance
  skip
  return !(← isAtEnd)

/-- The span of the next character. -/
def charSpan : Reading Span := do
  let first ← here
  return { first, last := (← get).next.place }

def failHere (wrong : Wrong) : Reading α := do
  let place ← here
  fail wrong place place

/-- Fails at the next character. -/
def failAtChar (wrong : Wrong) : Reading α := do
  let span ← charSpan
  fail wrong span.first span.last

/-- Fails with what was read since a place. -/
def failSince (first : Place) (wrong : Wrong) : Reading α := do fail wrong first (← here)

def spanSince (first : Place) : Reading Span := return { first, last := ← here }

/-- Reads a text if it is next. -/
def accept (text : String) : Reading Bool := do
  if text.toList.isPrefixOf (← get).rest then
    modify fun c => text.toList.foldl (fun c _ => c.next) c
    return true
  else return false

/-- The characters up to one that does not hold; `fuel` bounds their number. Blanks are skipped
behind each. -/
def takeWhile (holds : Char → Bool) : Nat → Reading (List Char)
  | 0 => return []
  | fuel + 1 => do
    match ← next? with
    | some c =>
      if holds c then
        discard advanceOver
        return c :: (← takeWhile holds fuel)
      else return []
    | none => return []

/-- As many steps as the rest of the pattern allows. -/
def fuel : Reading Nat := return (← get).rest.length + 1

end Reading

end Schemata.Text.Pattern
