import Schemata.Yaml.Scalar
import Schemata.Yaml.Token.Cursor

/-!
# Printing values

`Value.print?` writes a value as a document in block style. Strings are plain where that reads
back as the same string, quoted otherwise, and literal blocks where they hold line feeds. A
mapping of one entry whose key is itself such a mapping, or has a tag, has no printed form.
-/

namespace Schemata.Yaml

/-! ## Scalars -/

/-- What keeps a string from one style or another. -/
structure Traits where
  /-- Holds an indicator that a plain scalar in a block may not hold. -/
  indicators : Bool := false
  hasBreak : Bool := false
  special : Bool := false
  blankEdge : Bool := false
  endsInSpace : Bool := false
  /-- A space right after a break. -/
  breakSpace : Bool := false
  /-- A break right after a space. -/
  spaceBreak : Bool := false

/-- The characters that are printed as they are. -/
def isPrinted (c : Char) : Bool :=
  let code := c.toNat
  code == 0x0A || (0x20 ≤ code && code ≤ 0x7E) ||
  (0xA0 ≤ code && code ≤ 0xFFFD && code != 0xFEFF)

/-- Indicators at the start of a plain scalar. -/
def opensIndicator (c : Char) (after : List Char) : Bool :=
  "#,[]\x7b\x7d&*!|>'\"%@`".toList.contains c || ("?:-".toList.contains c && blankOrEnd after)

/-- Looks at the characters after the first; `before` is the one in front of them. -/
def Traits.scan (t : Traits) (before : Char) : List Char → Traits
  | [] => t
  | c :: after =>
    let t :=
      { t with
        indicators := t.indicators || (c == ':' && blankOrEnd after) ||
          (c == '#' && (isBlank before || isBreak before))
        hasBreak := t.hasBreak || isBreak c
        special := t.special || !isPrinted c
        blankEdge := t.blankEdge || (after.isEmpty && (c == ' ' || isBreak c))
        endsInSpace := t.endsInSpace || (after.isEmpty && c == ' ')
        breakSpace := t.breakSpace || (c == ' ' && isBreak before)
        spaceBreak := t.spaceBreak || (isBreak c && before == ' ') }
    t.scan c after

def Traits.of : List Char → Traits
  | [] => {}
  | c :: after =>
    let document :=
      ['-', '-', '-'].isPrefixOf (c :: after) || ['.', '.', '.'].isPrefixOf (c :: after)
    Traits.scan
      { indicators := document || opensIndicator c after
        hasBreak := isBreak c
        special := !isPrinted c
        blankEdge := c == ' ' || isBreak c
        endsInSpace := after.isEmpty && c == ' ' } c after

/-- The style of a string. Text that would be read as something else than a string is quoted;
text with line feeds is a literal block, except in a key. -/
def styleOf (text : String) (inKey : Bool) : ScalarStyle :=
  let chars := text.toList
  let t := Traits.of chars
  let isText := match resolvePlain text with
    | .ok (.string _) => !isPaddedNumeral chars
    | _ => false
  let quotes : ScalarStyle :=
    if t.breakSpace || t.spaceBreak || t.special || (inKey && t.hasBreak) then .doubleQuoted
    else .singleQuoted
  if chars.contains '\n' then
    if t.endsInSpace || t.spaceBreak || t.special || inKey then .doubleQuoted else .literal
  else if isText && !t.indicators && !t.blankEdge && quotes == .singleQuoted && !t.hasBreak then
    .plain
  else quotes

def upperHex (width code : Nat) : List Char :=
  let digits := (Nat.toDigits 16 code).map Char.toUpper
  List.replicate (width - digits.length) '0' ++ digits

/-- How a character stands in double quotes. -/
def escapeDouble (c : Char) : List Char :=
  match c with
  | '\x00' => ['\\', '0']
  | '\x07' => ['\\', 'a']
  | '\x08' => ['\\', 'b']
  | '\t' => ['\\', 't']
  | '\n' => ['\\', 'n']
  | '\x0b' => ['\\', 'v']
  | '\x0c' => ['\\', 'f']
  | '\r' => ['\\', 'r']
  | '\x1b' => ['\\', 'e']
  | '"' => ['\\', '"']
  | '\\' => ['\\', '\\']
  | '\u0085' => ['\\', 'N']
  | '\u2028' => ['\\', 'L']
  | '\u2029' => ['\\', 'P']
  | c =>
    if isPrinted c then [c]
    else if c.toNat < 0x100 then '\\' :: 'x' :: upperHex 2 c.toNat
    else if c.toNat < 0x10000 then '\\' :: 'u' :: upperHex 4 c.toNat
    else '\\' :: 'U' :: upperHex 8 c.toNat

def escapeSingle (c : Char) : List Char := if c == '\'' then ['\'', '\''] else [c]

/-- The lines of a text; what follows the last break is a line only if it is not empty. -/
def blockLines : List Char → List Char → List String
  | [], [] => []
  | line, [] => [String.ofList line.reverse]
  | line, c :: rest =>
    if c == '\n' then String.ofList line.reverse :: blockLines [] rest
    else blockLines (c :: line) rest

/-- The signs after the indicator of a literal block: a digit where the text starts with a blank,
and how the breaks at its end are kept. -/
def blockHints (text : List Char) : String :=
  let hint := if text.head?.any fun c => c == ' ' || isBreak c then "2" else ""
  let chomping := match text.reverse with
    | [] => "-"
    | c :: before =>
      if !isBreak c then "-"
      else match before with
        | [] => "+"
        | b :: _ => if isBreak b then "+" else ""
  hint ++ chomping

/-! ## Layout -/

/-- A printed node. The lines after the first of a text are indented against the collection that
holds it; the lines of a block stand at the indentation of the block itself. -/
inductive Layout where
  | inline (first : String) (rest : List String)
  | block (isSeq : Bool) (lines : List String)

/-- Indents the lines that are not empty. -/
def indentLines (lines : List String) : List String :=
  lines.map fun line => if line.isEmpty then line else "  " ++ line

def layoutString (text : String) (inKey : Bool) : Layout :=
  let chars := text.toList
  match styleOf text inKey with
  | .plain => .inline text []
  | .literal => .inline ("|" ++ blockHints chars) (indentLines (blockLines [] chars))
  | .doubleQuoted => .inline ("\"" ++ String.ofList (chars.flatMap escapeDouble) ++ "\"") []
  | _ => .inline ("'" ++ String.ofList (chars.flatMap escapeSingle) ++ "'") []

/-- The printed form of a tag. -/
def printTag (tag : String) : String :=
  let isPlain (b : UInt8) : Bool :=
    let c := Char.ofNat b.toNat
    b.toNat < 0x80 && (isNameChar c || ";/?:@&=+$,.!~*'()[]".toList.contains c)
  let octet (b : UInt8) : List Char :=
    if isPlain b then [Char.ofNat b.toNat] else '%' :: upperHex 2 b.toNat
  if tag == "!" then "!<!>"
  else "!" ++ String.ofList (tag.toUTF8.toList.flatMap octet)

/-- Puts a node on the line of an indicator, such as a dash and a blank. -/
def behindIndicator (indicator : String) (tag : Option String) : Layout → List String
  | .inline first rest => (indicator ++ " " ++ joinTag tag first) :: rest
  | .block isSeq lines =>
    match tag, lines with
    | none, first :: rest => (indicator ++ " " ++ first) :: indentLines rest
    | none, [] => [indicator]
    | some tag, lines =>
      (indicator ++ " " ++ tag) :: if isSeq && indicator != "-" then lines else indentLines lines
where
  joinTag (tag : Option String) (first : String) : String :=
    match tag with
    | none => first
    | some tag => tag ++ " " ++ first

/-- Puts the value of a mapping behind its key. Sequences are not indented against their key. -/
def behindKey (key : String) (tag : Option String) : Layout → List String
  | .inline first rest => (key ++ ": " ++ behindIndicator.joinTag tag first) :: rest
  | .block isSeq lines =>
    (key ++ ":" ++ (tag.elim "" (" " ++ ·))) :: if isSeq then lines else indentLines lines

/-- The longest key that is written in front of its colon, in octets. -/
def maxSimpleKey : Nat := 128

namespace Value

/-- The printed tag in front of a value. -/
def printedTag : Value → Option String
  | .tagged tag _ => some (printTag tag)
  | _ => none

/-- The octets that count for a simple key: those of the tag and the text. -/
def keySize (k : Value) : Nat :=
  let tag := k.printedTag.elim 0 String.utf8ByteSize
  match k.untagged with
  | .string s => tag + s.utf8ByteSize
  | .number n => tag + (n.write .document).utf8ByteSize
  | .bool b => tag + (toString b).utf8ByteSize
  | .null => tag + 4
  | _ => tag

/-- Whether a key is written in front of its colon: a short scalar on one line, or an empty
collection. -/
def isSimpleKey (k : Value) : Bool :=
  k.keySize ≤ maxSimpleKey &&
  match k.untagged with
  | .string s => !s.toList.any isBreak
  | .seq items => items.isEmpty
  | .map entries => entries.isEmpty
  | _ => true

/-- Whether the value prints as the start of a mapping that takes the place of a tag. -/
def isLoneEntry : Value → Bool
  | .map [_] => true
  | .tagged .. => true
  | _ => false

mutual

/-- Whether the value has a printed form; `tagged` tells that a tag stands in front. -/
def isPrintable (tagged : Bool) : Value → Bool
  | .seq items => printableItems items
  | .map [(k, v)] => (tagged || !k.isLoneEntry) && k.isPrintable false && v.isPrintable false
  | .map entries => printableEntries entries
  | .tagged _ v => v.isPrintable true
  | _ => true

def printableItems : List Value → Bool
  | [] => true
  | v :: rest => v.isPrintable false && printableItems rest

def printableEntries : List (Value × Value) → Bool
  | [] => true
  | (k, v) :: rest => k.isPrintable false && v.isPrintable false && printableEntries rest

end

mutual

/-- Lays out a value without its tag. -/
def layout (inKey : Bool) : Value → Layout
  | .null => .inline "null" []
  | .bool b => .inline (toString b) []
  | .number n => .inline (n.write .document) []
  | .string s => layoutString s inKey
  | .seq [] => .inline "[]" []
  | .seq items => .block true (layoutItems items)
  | .map [] => .inline "\x7b\x7d" []
  | .map entries => .block false (layoutEntries entries)
  | .tagged _ v => v.layout inKey

def layoutItems : List Value → List String
  | [] => []
  | v :: rest => behindIndicator "-" v.printedTag (v.layout false) ++ layoutItems rest

def layoutEntries : List (Value × Value) → List String
  | [] => []
  | (k, v) :: rest =>
    let entry :=
      match k.isSimpleKey, k.layout k.isSimpleKey with
      | true, .inline first _ =>
        behindKey (behindIndicator.joinTag k.printedTag first) v.printedTag (v.layout false)
      | _, laid =>
        behindIndicator "?" k.printedTag laid ++
          behindIndicator ":" v.printedTag (v.layout false)
    entry ++ layoutEntries rest

end

/-- The printed form of a value, without a break at its end. -/
def print? (v : Value) : Option String :=
  if v.isPrintable false then
    let lines := match v.layout false, v.printedTag with
      | .inline first rest, tag => behindIndicator.joinTag tag first :: rest
      | .block _ lines, none => lines
      | .block _ lines, some tag => tag :: lines
    some ("\n".intercalate lines)
  else none

end Value

end Schemata.Yaml
