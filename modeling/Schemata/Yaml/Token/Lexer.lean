import Schemata.Yaml.Token.Scalar
import Schemata.Yaml.Token.Tag

/-!
# The lexer

Indentation becomes tokens: a block opens where a column exceeds the current indentation and
closes where one falls below it. Whether a word is a key shows only at the colon after it, so
words are held back: a `Candidate` remembers where a key may have begun, and the tokens from
there on wait in the queue until the colon comes or can come no more.
-/

namespace Schemata.Yaml

/-- A place where a key may have begun. -/
structure Candidate where
  /-- The number of the token that would be the key, counted from the start of the document. -/
  token : Nat
  mark : Mark
  /-- Whether nothing but a key can stand here. -/
  required : Bool
deriving Repr, Inhabited

structure Lexer where
  cursor : Cursor
  /-- Tokens read and not taken, first one first. -/
  queue : List Token := []
  /-- The number of tokens taken. -/
  taken : Nat := 0
  started : Bool := false
  indent : Int := -1
  /-- The indentations of the blocks around the current one, innermost first. -/
  outer : List Int := []
  /-- Whether a key may begin here. -/
  keyAllowed : Bool := false
  /-- The candidate at each level of brackets, innermost first; the last is that of the block. -/
  candidates : List (Option Candidate) := []
deriving Inhabited

namespace Lexer

def ofChars (chars : List Char) : Lexer := { cursor := { rest := chars } }

def mark (l : Lexer) : Mark := l.cursor.mark

def inFlow (l : Lexer) : Bool := 1 < l.candidates.length

def push (l : Lexer) (token : Token) : Lexer := { l with queue := l.queue ++ [token] }

/-- Puts a token in front of the one with the given number. -/
def insertAt (l : Lexer) (number : Nat) (token : Token) : Lexer :=
  let at_ := number - l.taken
  { l with queue := l.queue.take at_ ++ token :: l.queue.drop at_ }

/-- A token that takes up no characters. -/
def emptyToken (kind : Token.Kind) (mark : Mark) : Token := { kind, start := mark, stop := mark }

/-- Pushes a token made of the next `count` characters. -/
def pushChars (l : Lexer) (kind : Token.Kind) (count : Nat) : Lexer :=
  let cursor := l.cursor.advance count
  { l with cursor }.push { kind, start := l.mark, stop := cursor.mark }

/-! ## Candidates -/

def missingColon {α : Type} (l : Lexer) (c : Candidate) : Except Error α :=
  l.cursor.fail .noColon .simpleKey c.mark

/-- A key lies on one line and within 1024 octets. -/
def Candidate.isStale (c : Candidate) (here : Mark) : Bool :=
  c.mark.line < here.line || c.mark.index + 1024 < here.index

/-- Gives up a candidate. -/
def giveUp (l : Lexer) : Option Candidate → Except Error (Option Candidate)
  | some c => if c.required then l.missingColon c else .ok none
  | none => .ok none

/-- Gives up the candidates that can be keys no more. -/
def dropStale (l : Lexer) : Except Error Lexer := do
  let candidates ← l.candidates.reverse.mapM fun c =>
    if c.any (Candidate.isStale · l.mark) then l.giveUp c else .ok c
  return { l with candidates := candidates.reverse }

/-- Gives up the innermost candidate. -/
def dropCandidate (l : Lexer) : Except Error Lexer := do
  match l.candidates with
  | [] => return l
  | c :: rest => return { l with candidates := (← l.giveUp c) :: rest }

/-- Notes that a key may begin here. -/
def saveCandidate (l : Lexer) : Except Error Lexer := do
  if l.keyAllowed then
    let c : Candidate :=
      { token := l.taken + l.queue.length, mark := l.mark,
        required := !l.inFlow && l.indent == l.mark.column }
    let l ← l.dropCandidate
    return { l with candidates := some c :: l.candidates.tail }
  else return l

/-! ## Indentation -/

/-- Opens a block at a column, if it lies to the right of the current one. The opening token
goes in front of the token with the given number, or to the end. -/
def openBlock (l : Lexer) (column : Nat) (number : Option Nat) (kind : Token.Kind) (mark : Mark) :
    Lexer :=
  if l.inFlow || column ≤ l.indent then l
  else
    let l := { l with outer := l.indent :: l.outer, indent := column }
    match number with
    | some n => l.insertAt n (emptyToken kind mark)
    | none => l.push (emptyToken kind mark)

/-- Closes the blocks that lie to the right of a column. -/
def closeBlocks (l : Lexer) (column : Int) : Lexer :=
  if l.inFlow then l else go l column l.outer
where
  go (l : Lexer) (column : Int) : List Int → Lexer
    | [] => l
    | indent :: outer =>
      if column < l.indent then
        go { l.push (emptyToken .blockEnd l.mark) with indent, outer } column outer
      else l

/-! ## Tokens -/

/-- Moves over blanks, comments and line breaks to the next token. A tab is no indentation: at
the start of a line of a block it stays. -/
def skipToToken (l : Lexer) : Nat → Lexer
  | 0 => l
  | fuel + 1 =>
    let s := l.cursor
    let s := if s.mark.column == 0 && s.isAt '\uFEFF' then s.next else s
    let tabs := l.inFlow || !l.keyAllowed
    let s := (s.skipWhile fun c => c == ' ' || (tabs && c == '\t')).skipComment
    if s.peek.any isBreak then
      skipToToken { l with cursor := s.skipBreak, keyAllowed := l.keyAllowed || !l.inFlow } fuel
    else { l with cursor := s }

def startStream (l : Lexer) : Lexer :=
  { l with started := true, keyAllowed := true, candidates := [none] }.push
    (emptyToken .streamStart l.mark)

/-- The end of the text counts as the start of a line. -/
def endStream (l : Lexer) : Except Error Lexer := do
  let m := l.mark
  let mark := if m.column = 0 then m else { m with column := 0, line := m.line + 1 }
  let l := { l with cursor := { l.cursor with mark } }.closeBlocks (-1)
  let l ← l.dropCandidate
  return { l with keyAllowed := false }.push (emptyToken .streamEnd mark)

def lexDirective (l : Lexer) : Except Error Lexer := do
  let l ← (l.closeBlocks (-1)).dropCandidate
  let (token, cursor) ← scanDirective l.cursor
  return { l with cursor, keyAllowed := false }.push token

def lexDocumentIndicator (l : Lexer) (kind : Token.Kind) : Except Error Lexer := do
  let l ← (l.closeBlocks (-1)).dropCandidate
  return { l with keyAllowed := false }.pushChars kind 3

def openFlow (l : Lexer) (kind : Token.Kind) : Except Error Lexer := do
  let l ← l.saveCandidate
  return { l with candidates := none :: l.candidates, keyAllowed := true }.pushChars kind 1

def closeFlow (l : Lexer) (kind : Token.Kind) : Except Error Lexer := do
  let l ← l.dropCandidate
  let candidates := if l.inFlow then l.candidates.tail else l.candidates
  return { l with candidates, keyAllowed := false }.pushChars kind 1

def lexFlowEntry (l : Lexer) : Except Error Lexer := do
  return { ← l.dropCandidate with keyAllowed := true }.pushChars .flowEntry 1

def refuse {α : Type} (l : Lexer) (problem : Problem) : Except Error α :=
  .error (.malformed problem l.mark none)

/-- A dash between brackets is left to the reader of events to complain about. -/
def lexBlockEntry (l : Lexer) : Except Error Lexer := do
  if !l.inFlow && !l.keyAllowed then l.refuse .entryNotAllowed
  let l ← (l.openBlock l.mark.column none .blockSeqStart l.mark).dropCandidate
  return { l with keyAllowed := true }.pushChars .blockEntry 1

def lexKey (l : Lexer) : Except Error Lexer := do
  if !l.inFlow && !l.keyAllowed then l.refuse .keyNotAllowed
  let l ← (l.openBlock l.mark.column none .blockMapStart l.mark).dropCandidate
  return { l with keyAllowed := !l.inFlow }.pushChars .key 1

/-- The colon makes the innermost candidate a key; without one it follows a complex key. -/
def lexValue (l : Lexer) : Except Error Lexer := do
  match l.candidates with
  | some c :: rest =>
    let l := l.insertAt c.token (emptyToken .key c.mark)
    let l := l.openBlock c.mark.column (some c.token) .blockMapStart c.mark
    return { l with candidates := none :: rest, keyAllowed := false }.pushChars .value 1
  | _ =>
    if !l.inFlow && !l.keyAllowed then l.refuse .valueNotAllowed
    let l := l.openBlock l.mark.column none .blockMapStart l.mark
    return { l with keyAllowed := !l.inFlow }.pushChars .value 1

/-- Reads a token that may be the start of a key. -/
def lexWord (l : Lexer) (scan : Cursor → Except Error (Token × Cursor)) : Except Error Lexer := do
  let l ← l.saveCandidate
  let (token, cursor) ← scan l.cursor
  return { l with cursor, keyAllowed := false }.push token

def lexQuoted (l : Lexer) (quote : Char) (style : ScalarStyle) : Except Error Lexer :=
  l.lexWord fun s => do
    let (f, s') ← scanQuoted quote s.mark s.rest.length {} s.next
    return ({ kind := .scalar f.toText style, start := s.mark, stop := s'.mark }, s')

def lexBlock (l : Lexer) (style : ScalarStyle) : Except Error Lexer := do
  let l ← l.dropCandidate
  let (token, cursor) ← scanBlock style l.indent l.cursor
  return { l with cursor, keyAllowed := true }.push token

/-- After a plain scalar that ends at a line break a key may begin. -/
def lexPlain (l : Lexer) : Except Error Lexer := do
  let l ← l.saveCandidate
  let s := l.cursor
  let scan ← scanPlain l.inFlow (l.indent + 1) s.mark (s.rest.length + 1) {} s.mark s
  let token := { kind := .scalar scan.folding.toText .plain, start := s.mark, stop := scan.stop }
  return { l with cursor := scan.cursor, keyAllowed := scan.folding.broken }.push token

/-- Whether a plain scalar may start with these characters. -/
def startsPlain (inFlow : Bool) : List Char → Bool
  | [] => false
  | c :: after =>
    !(isBlank c || isBreak c || "-?:,[]\x7b\x7d#&*!|>'\"%@`".toList.contains c) ||
    (c == '-' && !after.head?.any isBlank) ||
    (!inFlow && (c == '?' || c == ':') && !blankOrEnd after)

/-- Reads the token that starts with a given character. -/
def lexAt (l : Lexer) (c : Char) (after : List Char) : Except Error Lexer :=
  let first := l.mark.column == 0
  if first && c == '%' then l.lexDirective
  else if first && atDocumentIndicator (c :: after) then
    l.lexDocumentIndicator (if c == '-' then .documentStart else .documentEnd)
  else if c == '[' then l.openFlow .flowSeqStart
  else if c == '{' then l.openFlow .flowMapStart
  else if c == ']' then l.closeFlow .flowSeqEnd
  else if c == '}' then l.closeFlow .flowMapEnd
  else if c == ',' then l.lexFlowEntry
  else if c == '-' && blankOrEnd after then l.lexBlockEntry
  else if c == '?' && (l.inFlow || blankOrEnd after) then l.lexKey
  else if c == ':' && (l.inFlow || blankOrEnd after) then l.lexValue
  else if c == '*' then l.lexWord scanAlias
  else if c == '&' then l.lexWord scanAnchor
  else if c == '!' then l.lexWord (scanTag l.inFlow)
  else if c == '|' && !l.inFlow then l.lexBlock .literal
  else if c == '>' && !l.inFlow then l.lexBlock .folded
  else if c == '\'' then l.lexQuoted '\'' .singleQuoted
  else if c == '"' then l.lexQuoted '"' .doubleQuoted
  else if startsPlain l.inFlow (c :: after) then l.lexPlain
  else l.cursor.fail .noToken .nextToken l.mark

/-- Reads at least one more token into the queue. -/
def lexOne (l : Lexer) : Except Error Lexer := do
  if !l.started then return l.startStream
  let l := l.skipToToken (l.cursor.rest.length + 1)
  let l ← l.dropStale
  let l := l.closeBlocks l.mark.column
  match l.cursor.rest with
  | [] => l.endStream
  | c :: after => l.lexAt c after

/-- Whether the first token of the queue may still turn out to be a key. -/
def isHeld (l : Lexer) : Bool :=
  l.candidates.any fun c => c.any (·.token == l.taken)

/-- Reads until the first token of the queue is settled. -/
def settle : Nat → Lexer → Except Error Lexer
  | 0, l => .ok l
  | fuel + 1, l => do
    if l.queue.isEmpty then settle fuel (← l.lexOne)
    else
      let l ← l.dropStale
      if l.isHeld then settle fuel (← l.lexOne) else return l

/-- The next token, which stays. -/
def peek (l : Lexer) : Except Error (Token × Lexer) := do
  let l ← settle (l.cursor.rest.length + 4) l
  match l.queue with
  | token :: _ => return (token, l)
  | [] => return (emptyToken .streamEnd l.mark, l)

/-- Takes the token that was looked at. -/
def take (l : Lexer) : Lexer := { l with queue := l.queue.tail, taken := l.taken + 1 }

end Lexer

end Schemata.Yaml
