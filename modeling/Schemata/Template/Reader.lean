/-!
# Readers

A `Reader` reads a value off the front of a text or fails; after a failure the text is as it was
before, so `p <|> q` tries `q` at the same place.
-/

namespace Schemata.Template

abbrev Reader := StateT (List Char) Option

namespace Reader

/-- Reads exactly this text. -/
def lit (s : String) : Reader Unit := fun cs => (s.toList.isPrefixOf? cs).map ((), ·)

/-- Reads one character of a class. -/
def char (p : Char → Bool) : Reader Char
  | c :: cs => if p c then some (c, cs) else none
  | [] => none

/-- Reads the longest front of a class, maybe empty. -/
def span (p : Char → Bool) : Reader (List Char) := fun cs => some (cs.span p)

/-- Reads the longest front of a class, which may not be empty. -/
def span1 (p : Char → Bool) : Reader (List Char) := do return (← char p) :: (← span p)

def isSpace (c : Char) : Bool := c == ' ' || c == '\t' || c == '\r' || c == '\n'

/-- White space, maybe none. -/
def ws : Reader Unit := do discard (span isSpace)

/-- White space, at least one character. -/
def ws1 : Reader Unit := do discard (span1 isSpace)

/-- A word that white space must follow; the first character of it is read too. -/
def word (s : String) : Reader Unit := do
  lit s
  discard (char isSpace)

/-- Whether something is here; it is read if so. -/
def given (p : Reader Unit) : Reader Bool := (do p; return true) <|> pure false

/-- Reads at most so many values, for as long as one can be read. -/
def upTo (p : Reader α) : Nat → Reader (List α)
  | 0 => pure []
  | n + 1 => (do
      let a ← p
      return a :: (← upTo p n)) <|> pure []

/-- Reads values for as long as one can be read. Each takes a character at least. -/
def many (p : Reader α) : Reader (List α) := fun cs => upTo p cs.length cs

/-- Values with something between them, one at least. -/
def sepBy1 (p : Reader α) (separator : Reader Unit) : Reader (List α) := do
  return (← p) :: (← many (do separator; p))

/-- The text that a reader takes. -/
def taken (p : Reader Unit) : Reader String := fun cs =>
  (p cs).map fun (_, rest) => (String.ofList (cs.take (cs.length - rest.length)), rest)

/-- The characters up to a place where the reader succeeds, or all of them, and the rest. `acc`
holds those already passed, last first. -/
def splitBefore (p : Reader Unit) (acc : List Char) : List Char → List Char × List Char
  | [] => (acc.reverse, [])
  | c :: cs =>
    if (p (c :: cs)).isSome then (acc.reverse, c :: cs) else splitBefore p (c :: acc) cs

/-- Reads up to a place where the reader succeeds, or to the end. -/
def textBefore (p : Reader Unit) : Reader String := fun cs =>
  let (front, rest) := splitBefore p [] cs
  some (String.ofList front, rest)

def atEnd : Reader Unit
  | [] => some ((), [])
  | _ => none

end Reader

end Schemata.Template
