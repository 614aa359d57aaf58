import Schemata.Yaml.Token
import Schemata.Yaml.Token.Cursor

/-!
# Scalars

Plain, quoted and block scalars. In all of them a single line break between two words becomes a
space, and of several the first is dropped; literal block scalars keep every one.
-/

namespace Schemata.Yaml

/-- A run of breaks: the first one, and those after it. The first is kept only where it is no
line feed; a line feed alone becomes a space. -/
def foldBreaks (first after : List Char) : List Char :=
  if first == ['\n'] then if after.isEmpty then [' '] else after
  else first ++ after

/-- What has been read of a plain or quoted scalar. Blanks and breaks since the last other
character are held back until the next one. -/
structure Folding where
  /-- The characters read, last first. -/
  text : List Char := []
  /-- Blanks on the current line, last first. -/
  blanks : List Char := []
  firstBreak : List Char := []
  laterBreaks : List Char := []
  /-- Whether a line has ended since the last character. -/
  broken : Bool := false
deriving Inhabited

namespace Folding

/-- Writes the held-back blanks or breaks into the text. -/
def flush (f : Folding) : Folding :=
  if f.broken then { text := (foldBreaks f.firstBreak f.laterBreaks).reverse ++ f.text }
  else { text := f.blanks ++ f.text }

def push (f : Folding) (c : Char) : Folding :=
  let f := f.flush
  { f with text := c :: f.text }

/-- Blanks after a break are indentation. -/
def pushBlank (f : Folding) (c : Char) : Folding :=
  if f.broken then f else { f with blanks := c :: f.blanks }

/-- Blanks before a break are dropped. -/
def pushBreak (f : Folding) (br : List Char) : Folding :=
  if f.broken then { f with laterBreaks := f.laterBreaks ++ br }
  else { f with blanks := [], firstBreak := br, broken := true }

def isHolding (f : Folding) : Bool := f.broken || !f.blanks.isEmpty

def toText (f : Folding) : String := String.ofList f.text.reverse

end Folding

/-! ## Plain scalars -/

/-- The characters that end a plain scalar inside brackets. -/
def isFlowIndicator (c : Char) : Bool :=
  c == ',' || c == '[' || c == ']' || c == '{' || c == '}'

/-- What is read as a plain scalar: its text with the blanks held back at its end, where it
ends, and where reading goes on. -/
structure PlainScan where
  folding : Folding
  stop : Mark
  cursor : Cursor

/-- Whether a plain scalar ends with the blanks just read: at a line indented too little, at a
line between documents, or at a comment. -/
def endsAfterBlanks (inFlow : Bool) (indent : Int) (s : Cursor) : Bool :=
  (!inFlow && s.mark.column < indent) ||
  (s.mark.column == 0 && atDocumentIndicator s.rest) || s.isAt '#'

/-- Whether a plain scalar ends before these characters wherever they stand. -/
def endsPlain (inFlow : Bool) : List Char → Bool
  | [] => true
  | c :: after => (c == ':' && blankOrEnd after) || (inFlow && isFlowIndicator c)

/-- A colon before an indicator, inside brackets, would read as two things. -/
def isAmbiguousColon (inFlow : Bool) : List Char → Bool
  | ':' :: c :: _ => inFlow && (isFlowIndicator c || c == '?')
  | _ => false

/-- Reads on in a plain scalar that began at `since`. Lines after the first must be indented by
`indent`. The first argument bounds the characters read. -/
def scanPlain (inFlow : Bool) (indent : Int) (since : Mark) :
    Nat → Folding → Mark → Cursor → Except Error PlainScan
  | 0, f, stop, s => .ok { folding := f, stop, cursor := s }
  | fuel + 1, f, stop, s =>
    match s.rest with
    | [] => .ok { folding := f, stop, cursor := s }
    | c :: _ =>
      if isBlank c then
        if f.broken && s.mark.column < indent && c == '\t' then
          s.fail .tabAgainstIndentation .plainScalar since
        else scanPlain inFlow indent since fuel (f.pushBlank c) stop s.next
      else if isBreak c then
        scanPlain inFlow indent since fuel (f.pushBreak s.readBreak.1) stop s.readBreak.2
      else if f.isHolding && endsAfterBlanks inFlow indent s then
        .ok { folding := f, stop, cursor := s }
      else if isAmbiguousColon inFlow s.rest then s.fail .unexpectedColon .plainScalar since
      else if endsPlain inFlow s.rest then .ok { folding := f, stop, cursor := s }
      else scanPlain inFlow indent since fuel (f.push c) s.next.mark s.next

/-! ## Quoted scalars -/

/-- The character that an escape letter stands for. -/
def escapeChar? : Char → Option Char
  | '0' => some '\x00'
  | 'a' => some '\x07'
  | 'b' => some '\x08'
  | 't' => some '\t'
  | '\t' => some '\t'
  | 'n' => some '\n'
  | 'v' => some '\x0b'
  | 'f' => some '\x0c'
  | 'r' => some '\r'
  | 'e' => some '\x1b'
  | ' ' => some ' '
  | '"' => some '"'
  | '/' => some '/'
  | '\\' => some '\\'
  | 'N' => some '\u0085'
  | '_' => some '\u00a0'
  | 'L' => some '\u2028'
  | 'P' => some '\u2029'
  | _ => none

/-- The number of hexadecimal digits after an escape letter that takes a code point. -/
def escapeDigits? : Char → Option Nat
  | 'x' => some 2
  | 'u' => some 4
  | 'U' => some 8
  | _ => none

/-- Reads an escape, the cursor standing on its backslash. -/
def scanEscape (since : Mark) (s : Cursor) : Except Error (Char × Cursor) :=
  match s.rest with
  | _ :: e :: rest =>
    match escapeChar? e, escapeDigits? e with
    | some c, _ => .ok (c, s.advance 2)
    | none, some count =>
      let digits := (rest.take count).filterMap hexValue?
      let code := digits.foldl (fun acc d => acc * 16 + d) 0
      if digits.length < count then (s.advance 2).fail .noHexDigit .quotedText since
      else if (0xD800 ≤ code && code ≤ 0xDFFF) || 0x10FFFF < code then
        (s.advance 2).fail .noSuchCharacter .quotedText since
      else .ok (Char.ofNat code, s.advance (2 + count))
    | none, none => s.fail .unknownEscape .quotedText since
  | _ => s.fail .unknownEscape .quotedText since

/-- Reads on in a quoted scalar that began at `since`, up to and over the closing quote. -/
def scanQuoted (quote : Char) (since : Mark) :
    Nat → Folding → Cursor → Except Error (Folding × Cursor)
  | 0, _, s => s.fail .endOfStream .quotedScalar since
  | fuel + 1, f, s =>
    match s.rest with
    | [] => s.fail .endOfStream .quotedScalar since
    | c :: after =>
      if isBlank c then scanQuoted quote since fuel (f.pushBlank c) s.next
      else if isBreak c then
        scanQuoted quote since fuel (f.pushBreak s.readBreak.1) s.readBreak.2
      else if s.mark.column == 0 && atDocumentIndicator s.rest then
        s.fail .documentIndicator .quotedScalar since
      else if c == quote then
        if quote == '\'' && after.head? == some quote then
          scanQuoted quote since fuel (f.push quote) (s.advance 2)
        else .ok (f.flush, s.next)
      else if c == '\\' && quote == '"' then
        if after.head?.any isBreak then
          scanQuoted quote since fuel { f.flush with broken := true } s.next.skipBreak
        else
          match scanEscape since s with
          | .ok (e, s) => scanQuoted quote since fuel (f.push e) s
          | .error e => .error e
      else scanQuoted quote since fuel (f.push c) s.next

/-! ## Block scalars -/

/-- What happens to the breaks at the end of a block scalar. -/
inductive Chomping where
  | strip | clip | keep
deriving DecidableEq, Repr

/-- The signs after the indicator of a block scalar: chomping and a digit of indentation, in
either order. -/
structure BlockHeader where
  chomping : Chomping := .clip
  /-- Zero when the indentation is to be found from the text. -/
  indentation : Nat := 0

def scanChomping (h : BlockHeader) (s : Cursor) : BlockHeader × Cursor :=
  if s.isAt '+' then ({ h with chomping := .keep }, s.next)
  else if s.isAt '-' then ({ h with chomping := .strip }, s.next)
  else (h, s)

def scanIndentation (since : Mark) (h : BlockHeader) (s : Cursor) :
    Except Error (BlockHeader × Cursor) :=
  match s.peek with
  | some c =>
    if c == '0' then s.fail .zeroIndentation .blockScalar since
    else if c.isDigit then .ok ({ h with indentation := c.toNat - '0'.toNat }, s.next)
    else .ok (h, s)
  | none => .ok (h, s)

def scanBlockHeader (since : Mark) (s : Cursor) : Except Error (BlockHeader × Cursor) := do
  let (h, s') := scanChomping {} s
  if h.chomping != .clip then scanIndentation since h s'
  else
    let (h, s) ← scanIndentation since {} s
    return if h.indentation = 0 then (h, s) else scanChomping h s

/-- Eats indentation and empty lines. `indent` is zero while it is not known; then the widest
indentation met is found as well. Returns the breaks, that width, the end of the last break, and
the place of the first character of text. -/
def scanBlockBreaks (since : Mark) (indent : Nat) :
    Nat → List Char → Nat → Mark → Cursor →
      Except Error (List Char × Nat × Mark × Cursor)
  | 0, breaks, widest, stop, s => .ok (breaks, widest, stop, s)
  | fuel + 1, breaks, widest, stop, s =>
    let isIndentation := indent == 0 || s.mark.column < indent
    if isIndentation && s.isAt ' ' then scanBlockBreaks since indent fuel breaks widest stop s.next
    else
      let widest := max widest s.mark.column
      if isIndentation && s.isAt '\t' then s.fail .tabForIndentation .blockScalar since
      else if s.peek.any isBreak then
        let (br, s) := s.readBreak
        scanBlockBreaks since indent fuel (breaks ++ br) widest s.mark s
      else .ok (breaks, widest, stop, s)

/-- What has been read of a block scalar: its text (last character first), the break after the
last line, and the empty lines after that. -/
structure BlockText where
  text : List Char := []
  lastBreak : List Char := []
  emptyLines : List Char := []
  /-- Whether the last line started with a blank; such lines are not folded. -/
  blankStart : Bool := false

/-- The breaks between the last line and one that starts with a blank or not. -/
def BlockText.breaksBefore (b : BlockText) (style : ScalarStyle) (blankStart : Bool) :
    List Char :=
  if style == .folded && b.lastBreak == ['\n'] && !b.blankStart && !blankStart then
    foldBreaks b.lastBreak b.emptyLines
  else b.lastBreak ++ b.emptyLines

/-- Reads lines of text indented by `indent`. -/
def scanBlockLines (since : Mark) (style : ScalarStyle) (indent : Nat) :
    Nat → BlockText → Mark → Cursor → Except Error (BlockText × Mark × Cursor)
  | 0, b, stop, s => .ok (b, stop, s)
  | fuel + 1, b, stop, s =>
    if s.mark.column != indent || s.rest.isEmpty then .ok (b, stop, s)
    else
      let blankStart := s.peek.any isBlank
      let (line, s) := s.span (!isBreak ·)
      let (lastBreak, s) := s.readBreak
      match scanBlockBreaks since indent (s.rest.length + 1) [] 0 s.mark s with
      | .error e => .error e
      | .ok (emptyLines, _, stop, s) =>
        let text := line.reverse ++ ((b.breaksBefore style blankStart).reverse ++ b.text)
        scanBlockLines since style indent fuel { text, lastBreak, emptyLines, blankStart } stop s

/-- Reads a block scalar, the cursor standing on its indicator. `parent` is the indentation of
the block around it. -/
def scanBlock (style : ScalarStyle) (parent : Int) (s : Cursor) :
    Except Error (Token × Cursor) := do
  let since := s.mark
  let (header, s) ← scanBlockHeader since s.next
  let s := s.skipBlanks.skipComment
  if !breakOrEnd s.rest then s.fail .noCommentOrBreak .blockScalar since
  let s := s.skipBreak
  let given : Nat := if header.indentation = 0 then 0 else (max parent 0).toNat + header.indentation
  let fuel := s.rest.length + 1
  let (emptyLines, widest, stop, s) ← scanBlockBreaks since given fuel [] 0 s.mark s
  let indent := if given = 0 then max (max widest (parent + 1).toNat) 1 else given
  let (b, stop, s) ← scanBlockLines since style indent fuel { emptyLines } stop s
  let tail := match header.chomping with
    | .strip => []
    | .clip => b.lastBreak
    | .keep => b.lastBreak ++ b.emptyLines
  let text := String.ofList (b.text.reverse ++ tail)
  return ({ kind := .scalar text style, start := since, stop }, s)

end Schemata.Yaml
