import Schemata.Text.Pattern.Cursor
import Schemata.Text.Pattern.Tree

/-!
# Escapes

What a backslash makes of the characters behind it: characters by their codes, classes by letters
and properties, and assertions.
-/

namespace Schemata.Text.Pattern

open Reading

def isHexDigit (c : Char) : Bool :=
  c.isDigit || ('a' ≤ c && c ≤ 'f') || ('A' ≤ c && c ≤ 'F')

/-- The scalar value that hexadecimal digits name. -/
def scalar? (digits : List Char) : Option Char :=
  let code := CodeSet.hexValue (digits.map Char.toUpper)
  if code.isValidChar then some (Char.ofNat code) else none

/-- Reads so many hexadecimal digits. -/
def readHexDigits : Nat → Reading (List Char)
  | 0 => return []
  | n + 1 => do
    match ← next? with
    | some c =>
      if isHexDigit c then
        let more ← advanceOver
        if n != 0 && !more then failHere .endsInEscape
        else return c :: (← readHexDigits n)
      else failAtChar .noHexDigit
    | none => failHere .endsInEscape

/-- Reads hexadecimal digits up to a brace; `opening` is the place of the brace before them. -/
def readHexInBraces (opening : Place) : Nat → Reading (List Char)
  | 0 => failSince opening .endsInEscape
  | fuel + 1 => do
    match ← next? with
    | none => failSince opening .endsInEscape
    | some '\x7d' => return []
    | some c =>
      if isHexDigit c then
        discard advanceOver
        return c :: (← readHexInBraces opening fuel)
      else failAtChar .noHexDigit

/-- Reads the code of a character; the cursor is at the letter that tells how many digits it has
outside braces, and `start` is the place of the backslash. -/
def readCode (start : Place) (digits : Nat) : Reading Literal := do
  if !(← advanceOver) then failHere .endsInEscape
  if (← next?) == some '\x7b' then
    let opening ← here
    let span ← charSpan
    discard advanceOver
    let code ← readHexInBraces opening (← fuel)
    let last ← here
    discard advanceOver
    if code.isEmpty then failSince opening .emptyHex
    match scalar? code with
    | some char => return { span := ← spanSince start, char }
    | none => fail .noScalar span.last last
  else
    let first ← here
    let code ← readHexDigits digits
    match scalar? code with
    | some char => return { span := ← spanSince start, char, isOctet := digits == 2 }
    | none => failSince first .noScalar

/-- The query in the braces of a property. -/
def queryOf (name : List Char) : Query :=
  let splitAt (mark : String) : Option Query :=
    match split mark (String.ofList name) with
    | property :: value :: rest => some (.value property (mark.intercalate (value :: rest)))
    | _ => none
  (((splitAt "!=").or (splitAt ":")).or (splitAt "=")).getD (.name (String.ofList name))

/-- Reads a property; the cursor is at the letter for it. -/
def readProperty (start : Place) (negated : Bool) : Reading Primitive := do
  if !(← advanceOver) then failHere .endsInEscape
  match ← next? with
  | some '\x7b' =>
    discard advanceOver
    let name ← takeWhile (· != '\x7d') (← fuel)
    if ← isAtEnd then failHere .endsInEscape
    advance
    return .property (← spanSince start) negated (queryOf name)
  | some '\\' => failAtChar .badProperty
  | c =>
    discard advanceOver
    return .property (← spanSince start) negated (.name (String.ofList c.toList))

/-- The assertions of words that braces tell apart. -/
def wordEdges : List (String × Assertion) :=
  [("start", .wordStart), ("end", .wordStop), ("start-half", .wordStartHalf),
    ("end-half", .wordStopHalf)]

/-- Reads the braces of an edge of a word. Braces that cannot be such are left to the count of a
repetition. -/
def readWordEdge (start : Place) : Reading Assertion := do
  let before ← get
  if before.rest.head? != some '\x7b' then return .edge
  let isPart (c : Char) : Bool := c.isAlpha || c == '-'
  if !(← advanceOver) then failSince start .endsInWordEdge
  let first ← here
  if !(← next?).any isPart then
    set before
    return .edge
  let name ← takeWhile isPart (← fuel)
  if (← next?) != some '\x7d' then failSince before.place .unclosedWordEdge
  let last ← here
  advance
  match wordEdges.lookup (String.ofList name) with
  | some kind => return kind
  | none => fail .unknownWordEdge first last

/-- Whether a character can be escaped that needs no escape or means something by itself. -/
def isEscapable (c : Char) : Bool :=
  c.toNat < 0x80 && !c.isAlphanum && c != '<' && c != '>'

/-- The characters that letters stand for. -/
def namedChars : List (Char × Char) :=
  [('a', '\x07'), ('f', '\x0c'), ('t', '\t'), ('n', '\n'), ('r', '\r'), ('v', '\x0b')]

/-- The assertions that letters and angles stand for. -/
def namedAssertions : List (Char × Assertion) :=
  [('A', .textStart), ('z', .textStop), ('B', .noEdge), ('<', .wordStart), ('>', .wordStop)]

def shorthands : List (Char × Shorthand) := [('d', .digit), ('s', .space), ('w', .word)]

/-- Reads what a backslash begins. -/
def readEscape : Reading Primitive := do
  let start ← here
  advance
  match ← next? with
  | none => failSince start .endsInEscape
  | some 'x' => return .literal (← readCode start 2)
  | some 'u' => return .literal (← readCode start 4)
  | some 'U' => return .literal (← readCode start 8)
  | some 'p' => readProperty start false
  | some 'P' => readProperty start true
  | some c =>
    advance
    let span ← spanSince start
    if c.isDigit then fail .backReference span.first span.last
    else if isEscapable c then return .literal { span, char := c }
    else if c == 'b' then
      let kind ← readWordEdge start
      return .assertion (← spanSince start) kind
    else
      match shorthands.lookup c.toLower, namedChars.lookup c, namedAssertions.lookup c with
      | some kind, _, _ => return .shorthand span c.isUpper kind
      | _, some char, _ => return .literal { span, char }
      | _, _, some kind => return .assertion span kind
      | _, _, _ => fail .unknownEscape span.first span.last

end Schemata.Text.Pattern
