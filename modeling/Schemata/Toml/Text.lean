import Schemata.Number.Numeral
import Schemata.Toml.Reader

/-!
# TOML text

White space, comments, and the four kinds of strings.
-/

namespace Schemata.Toml

open Reader

def isBlank (c : Char) : Bool := c == ' ' || c == '\t'

/-- Characters that a comment may hold. -/
def isCommentChar (c : Char) : Bool := c == '\t' || (0x20 ≤ c.toNat && c.toNat != 0x7F)

/-- Characters that stand for themselves between double quotes. -/
def isBasicChar (c : Char) : Bool := isCommentChar c && c != '"' && c != '\\'

/-- Characters that may stand between single quotes. -/
def isLiteralChar (c : Char) : Bool := isCommentChar c && c != '\''

def isHexDigit (c : Char) : Bool := (Numeral.digitValue? 16 c).isSome

namespace Reader

/-- White space within a line. -/
def blanks : Reader Unit := do discard (span isBlank)

/-- The end of a line. -/
def newline : Reader Unit := do
  if (← char fun c => c == '\n' || c == '\r') == '\r' then discard (char (· == '\n'))

def comment : Reader Unit := do
  lit "#"
  discard (span isCommentChar)

def lineEnd : Reader Unit := orElse newline atEnd

/-- What may follow on the line of a value or of a header. -/
def lineRest : Reader Unit :=
  wanting (.text "#") <| wanting .newline do
    blanks
    discard (maybe comment)
    lineEnd

/-- Reads at most so many lines of filling. -/
def fillUpTo : Nat → Reader Unit
  | 0 => pure ()
  | n + 1 => do
    blanks
    match ← next? with
    | some '#' => do
      comment
      newline
      fillUpTo n
    | some '\n' | some '\r' => do
      newline
      fillUpTo n
    | _ => pure ()

/-- White space, line ends and comments. -/
def filling : Reader Unit := fun p => fillUpTo (p.rest.length + 1) p

/-! ## Strings between double quotes -/

/-- The character that a backslash and this character spell. -/
def simpleEscape? : Char → Option Char
  | 'b' => some '\x08'
  | 'f' => some '\x0c'
  | 'n' => some '\n'
  | 'r' => some '\r'
  | 't' => some '\t'
  | '\\' => some '\\'
  | '"' => some '"'
  | _ => none

/-- The character with a code of so many hexadecimal digits. -/
def code (digits : Nat) : Reader Char :=
  checked (counted 0 digits isHexDigit) fun ds =>
    let value := (Numeral.natural? 16 ds).getD 0
    if ds.length != digits then .error {}
    else if h : value.isValidChar then .ok (Char.ofNatAux value h)
    else .error { cause := some .outOfRange }

/-- Refuses a character after a backslash. Past it, if it is an ASCII character. -/
def badEscape (c : Char) : Reader Char :=
  let wanted (r : Reader Char) : Reader Char :=
    ["b", "f", "n", "r", "t", "u", "U", "\\", "\""].foldl (fun r s => wanting (.text s) r) r
  wanted <| named .escape <| settle do
    if c.toNat < 0x80 then discard (char fun _ => true)
    refuse

/-- What stands after a backslash. -/
def escapeRest : Reader Char := do
  match ← next? with
  | none => refuse
  | some c =>
    match simpleEscape? c with
    | some meant => do
      discard (char fun _ => true)
      return meant
    | none =>
      if c == 'u' then
        discard (char fun _ => true)
        named .shortCode (settle (code 4))
      else if c == 'U' then
        discard (char fun _ => true)
        named .longCode (settle (code 8))
      else badEscape c

def escaped : Reader Char := do
  lit "\\"
  escapeRest

/-- Characters that stand for themselves, or one that is escaped. -/
def basicPiece : Reader (List Char) :=
  orElse (span1 isBasicChar) do return [← escaped]

def basicString : Reader String := do
  lit "\""
  let pieces ← many basicPiece
  named .basicString (settle (lit "\""))
  return String.ofList pieces.flatten

/-- A backslash at the end of a line, which hides all white space up to the next character. -/
def hiddenBreak : Reader Unit := do
  discard <| many1 do
    lit "\\"
    blanks
    newline
    discard (many (orElse newline (discard (span1 isBlank))))

def blockPiece : Reader (List Char) :=
  orElse (span1 isBasicChar) <|
  orElse (do hiddenBreak; return []) <|
  orElse (do return [← escaped]) do
    newline
    return ['\n']

/-- One or two quotes in front of something. -/
def fewQuotes (quote : Char) (following : Reader Unit) : Reader (List Char) :=
  let quotes (qs : List Char) : Reader (List Char) := do
    lit (String.ofList qs)
    ahead following
    return qs
  orElse (quotes [quote, quote]) (quotes [quote])

def blockBody : Reader (List Char) := do
  let front ← many blockPiece
  let groups ← many do
    let quotes ← fewQuotes '"' (discard blockPiece)
    return quotes ++ (← many blockPiece).flatten
  let back ← maybe (fewQuotes '"' (lit "\"\"\""))
  return front.flatten ++ groups.flatten ++ back.getD []

def blockString : Reader String :=
  named .blockString do
    lit "\"\"\""
    discard (maybe newline)
    let body ← settle blockBody
    settle (lit "\"\"\"")
    return String.ofList body

/-! ## Strings between single quotes -/

def literalString : Reader String :=
  named .literalString do
    lit "'"
    let body ← span isLiteralChar
    settle (lit "'")
    return String.ofList body

def literalPiece : Reader Unit := orElse (discard (char isLiteralChar)) newline

def literalBody : Reader Unit := do
  discard (many literalPiece)
  discard <| many do
    discard (fewQuotes '\'' literalPiece)
    many1 literalPiece
  discard (maybe (fewQuotes '\'' (lit "'''")))

/-- Turns line ends of two characters into line feeds. -/
def plainLines : List Char → List Char
  | '\r' :: '\n' :: rest => '\n' :: plainLines rest
  | c :: rest => c :: plainLines rest
  | [] => []

def literalBlock : Reader String :=
  named .literalBlock do
    lit "'''"
    discard (maybe newline)
    let body ← settle (taken literalBody)
    settle (lit "'''")
    return String.ofList (plainLines body)

def string : Reader String :=
  orElse blockString (orElse basicString (orElse literalBlock literalString))

end Reader

end Schemata.Toml
