import Schemata.Decode
import Schemata.Text.Width

/-!
# Reports

A report shows a decode error with the line it is on, in colour, and a mark under the character
at fault. The label arithmetic stands apart: `labelSpan` is a range of characters of the source.
-/

namespace Schemata.Report

/-! ## Labels -/

/-- Where a span is marked in a source of `length` characters: within the source, and never
empty. The span's start is taken as a character index. -/
def labelSpan (length : Nat) (span : Nat × Nat) : Nat × Nat :=
  let start := min span.1 (length - 1)
  (start, max (start + 1) (min span.2 length))

/-! ## Lines of the source -/

structure Line where
  /-- The number of characters before the line. -/
  start : Nat
  /-- The characters up to the line's terminator. -/
  text : List Char
deriving Repr, Inhabited

def isTerminator (c : Char) : Bool :=
  c == '\r' || c == '\n' || c == '\x0b' || c == '\x0c' || c == '\u0085' || c == '\u2028' ||
  c == '\u2029'

/-- The lines of a text; `pending` is what has been read of the current one, last character
first, and `position` the number of characters read. -/
def linesFrom (start position : Nat) (pending : List Char) : List Char → List Line
  | [] => if pending.isEmpty then [] else [{ start, text := pending.reverse }]
  | '\r' :: '\n' :: rest =>
    { start, text := pending.reverse } :: linesFrom (position + 2) (position + 2) [] rest
  | c :: rest =>
    if isTerminator c then
      { start, text := pending.reverse } :: linesFrom (position + 1) (position + 1) [] rest
    else linesFrom start (position + 1) (c :: pending) rest

def lines (source : List Char) : List Line := linesFrom 0 0 [] source

/-- The line that a character stands on, with its number counted from one. -/
def lineAt (number : Nat) (offset : Nat) : List Line → Option (Nat × Line)
  | [] => none
  | line :: rest =>
    match rest with
    | after :: _ =>
      if after.start ≤ offset then lineAt (number + 1) offset rest else some (number, line)
    | [] => some (number, line)

/-! ## Drawing -/

def tabWidth : Nat := 4

/-- What is drawn for the character in a column of a line, and how many columns it takes. -/
def drawn (c : Char) (column : Nat) : Char × Nat :=
  if c == '\t' then (' ', (column / tabWidth + 1) * tabWidth - column)
  else if Text.isWhitespace c then (' ', 1)
  else (c, Text.width c)

/-- Text in a colour, by the code that switches it on. -/
def paint (code text : String) : String := "\x1b[" ++ code ++ "m" ++ text ++ "\x1b[0m"

def red : String → String := paint "31"

def frame : String → String := paint "38;5;246"

def plain : String → String := paint "38;5;249"

def faint : String → String := paint "38;5;240"

def spaces (n : Nat) : String := String.ofList (List.replicate n ' ')

def times (n : Nat) (s : String) : String := String.join (List.replicate n s)

/-- The line itself, each character in its colour. -/
def drawLine (marked : Nat) (text : List Char) : String :=
  String.join <| text.mapIdx fun column c =>
    let (shown, width) := drawn c column
    let colour := if column == marked then red else plain
    if shown == ' ' then times width (colour " ") else colour shown.toString

/-- Draws the columns up to two past the marked one, by what each of them takes. -/
def drawBelow (marked : Nat) (text : List Char) (cell : Nat → Nat → String) : String :=
  String.join <| (List.range (marked + 3)).map fun column =>
    let width := match text[column]? with
      | some c => (drawn c column).2
      | none => 1
    cell column width

/-- A mark that points at the character from below. -/
def drawMark (marked : Nat) (text : List Char) : String :=
  drawBelow marked text fun column width =>
    if column == marked then
      if width = 0 then "" else red "┬" ++ times (width - 1) (red "─")
    else spaces width

/-- The line from the mark to its label. -/
def drawLead (marked : Nat) (text : List Char) : String :=
  drawBelow marked text fun column width =>
    if column < marked then spaces width
    else if column == marked then
      if width = 0 then "" else red "╰" ++ times (width - 1) (red "─")
    else times width (red "─")

/-- The line of the source with the mark and the label below it. -/
def drawExcerpt (path label : String) (source : List Char) (offset : Nat) : String :=
  match lineAt 1 offset (lines source) with
  | none => ""
  | some (number, line) =>
    let marked := offset - line.start
    let text := (line.text.reverse.dropWhile Text.isWhitespace).reverse
    let digits := (toString number).length
    let margin := " " ++ faint (spaces digits ++ " │") ++ " "
    let place := path ++ ":" ++ toString number ++ ":" ++ toString (marked + 1)
    spaces (digits + 2) ++ frame "╭" ++ frame "─" ++ frame "[" ++ place ++ frame "]" ++ "\n" ++
    spaces (digits + 2) ++ frame "│" ++ "\n" ++
    " " ++ frame (toString number ++ " │") ++ " " ++ drawLine marked text ++ "\n" ++
    margin ++ drawMark marked text ++ "\n" ++
    margin ++ drawLead marked text ++ " " ++ label ++ "\n" ++
    frame (times (digits + 2) "─" ++ "╯") ++ "\n"

end Report

/-- The error as it is shown to the user: its message, and where its place is known, the line of
the source. -/
def DecodeError.report (e : DecodeError) (source : String) : String :=
  let chars := source.toList
  let heading := Report.red "Error:" ++ " " ++ e.message ++ "\n"
  match e.span with
  | some span =>
    if chars.isEmpty then heading
    else heading ++ Report.drawExcerpt e.path e.label chars (Report.labelSpan chars.length span).1
  | none => heading

end Schemata
