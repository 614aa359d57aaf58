import Schemata.Text.Search

/-!
# Faults of patterns

A `Fault` tells why a text is no pattern, and the stretch of the text that is to blame.
`Fault.message` shows the text with marks under that stretch.
-/

namespace Schemata.Text.Pattern

/-- A place between the characters of a text. Lines and columns are counted from one. -/
structure Place where
  index : Nat := 0
  line : Nat := 1
  column : Nat := 1
deriving DecidableEq, Repr

/-- The place behind a character. -/
def Place.after (p : Place) (c : Char) : Place :=
  if c == '\n' then { index := p.index + 1, line := p.line + 1, column := 1 }
  else { p with index := p.index + 1, column := p.column + 1 }

/-- A stretch between two places. -/
structure Span where
  first : Place
  last : Place
deriving DecidableEq, Repr

def Span.isOneLine (s : Span) : Bool := s.first.line == s.last.line

/-- How deep groups, classes and what else holds others may be nested. -/
def maxNesting : Nat := 250

inductive Wrong where
  | escapeInClass | reversedRange | noRangeEnd | unclosedClass
  | badDecimal | emptyHex | noScalar | noHexDigit | endsInEscape | unknownEscape
  | danglingNegation | duplicateFlag | repeatedNegation | endsInFlags | unknownFlag
  | duplicateName | emptyName | badName | unclosedName
  | unclosedGroup | unopenedGroup | tooDeep
  | reversedCount | emptyCount | unclosedCount | nothingToRepeat
  | unclosedWordEdge | unknownWordEdge | endsInWordEdge
  | badProperty | backReference | lookAround
  | noUnicode | invalidUtf8 | noProperty | noPropertyValue
deriving DecidableEq, Repr

def Wrong.message : Wrong → String
  | .escapeInClass => "invalid escape sequence found in character class"
  | .reversedRange => "invalid character class range, the start must be <= the end"
  | .noRangeEnd => "invalid range boundary, must be a literal"
  | .unclosedClass => "unclosed character class"
  | .badDecimal => "decimal literal invalid"
  | .emptyHex => "hexadecimal literal empty"
  | .noScalar => "hexadecimal literal is not a Unicode scalar value"
  | .noHexDigit => "invalid hexadecimal digit"
  | .endsInEscape => "incomplete escape sequence, reached end of pattern prematurely"
  | .unknownEscape => "unrecognized escape sequence"
  | .danglingNegation => "dangling flag negation operator"
  | .duplicateFlag => "duplicate flag"
  | .repeatedNegation => "flag negation operator repeated"
  | .endsInFlags => "expected flag but got end of regex"
  | .unknownFlag => "unrecognized flag"
  | .duplicateName => "duplicate capture group name"
  | .emptyName => "empty capture group name"
  | .badName => "invalid capture group character"
  | .unclosedName => "unclosed capture group name"
  | .unclosedGroup => "unclosed group"
  | .unopenedGroup => "unopened group"
  | .tooDeep => s!"exceed the maximum number of nested parentheses/brackets ({maxNesting})"
  | .reversedCount => "invalid repetition count range, the start must be <= the end"
  | .emptyCount => "repetition quantifier expects a valid decimal"
  | .unclosedCount => "unclosed counted repetition"
  | .nothingToRepeat => "repetition operator missing expression"
  | .unclosedWordEdge =>
    "special word boundary assertion is either unclosed or contains an invalid character"
  | .unknownWordEdge =>
    "unrecognized special word boundary assertion, valid choices are: start, end, start-half " ++
      "or end-half"
  | .endsInWordEdge =>
    "found either the beginning of a special word boundary or a bounded repetition on a \\b " ++
      "with an opening brace, but no closing brace"
  | .badProperty => "invalid Unicode character class"
  | .backReference => "backreferences are not supported"
  | .lookAround => "look-around, including look-ahead and look-behind, is not supported"
  | .noUnicode => "Unicode not allowed here"
  | .invalidUtf8 => "pattern can match invalid UTF-8"
  | .noProperty => "Unicode property not found"
  | .noPropertyValue => "Unicode property value not found"

structure Fault where
  wrong : Wrong
  span : Span
  /-- Where the same was written before. -/
  earlier : Option Span := none
deriving Repr

namespace Fault

/-- The spans to be marked, in their order. -/
def spans (f : Fault) : List Span := f.earlier.toList ++ [f.span]

/-- Marks under the columns of spans of one line; `column` is the next one. An empty span has one
mark. -/
def marksFrom (column : Nat) : List Span → String
  | [] => ""
  | s :: rest =>
    let blanks := String.ofList (List.replicate (s.first.column - column) ' ')
    let length := max 1 (s.last.column - s.first.column)
    blanks ++ String.ofList (List.replicate length '^') ++
      marksFrom (max column s.first.column + length) rest

/-- Puts a number behind blanks, up to a width. -/
def padLeft (width n : Nat) : String :=
  let digits := toString n
  String.ofList (List.replicate (width - digits.length) ' ') ++ digits

/-- A line of the pattern, and a line of marks if there is something to mark. -/
def shownLine (f : Fault) (width : Nat) (number : Nat) (line : String) : String :=
  let lead := if width = 0 then "    " else padLeft width number ++ ": "
  let marked := f.spans.filter fun s => s.isOneLine && s.first.line == number
  let marks :=
    if marked.isEmpty then ""
    else String.ofList (List.replicate lead.length ' ') ++ marksFrom 1 marked ++ "\n"
  lead ++ line ++ "\n" ++ marks

/-- The lines of the pattern with marks. What follows a line feed at the end is counted as a line
but not shown. -/
def shown (f : Fault) (pattern : String) : String :=
  let shownLines := lines pattern
  let count := shownLines.length + (if pattern.toList.getLast? == some '\n' then 1 else 0)
  let width := if count ≤ 1 then 0 else (toString count).length
  String.join (shownLines.mapIdx fun i line => f.shownLine width (i + 1) line)

def spanNote (s : Span) : String :=
  s!"on line {s.first.line} (column {s.first.column}) through line {s.last.line} " ++
    s!"(column {s.last.column - 1})"

/-- The message for a fault of a pattern. -/
def message (f : Fault) (pattern : String) : String :=
  let notes := (f.spans.filter (!·.isOneLine)).map spanNote
  let divider := String.ofList (List.replicate 79 '~') ++ "\n"
  let body :=
    if pattern.toList.contains '\n' then
      divider ++ f.shown pattern ++ divider ++
        (if notes.isEmpty then "" else "\n".intercalate notes ++ "\n")
    else f.shown pattern
  "regex parse error:\n" ++ body ++ "error: " ++ f.wrong.message

end Fault

end Schemata.Text.Pattern
