import Schemata.Yaml.Token
import Schemata.Yaml.Token.Cursor

/-!
# Names, tags and directives

Anchors and aliases, tags in their three forms (`!<meaning>`, `!suffix`, `!handle!suffix`), and
the lines that start with a percent sign.
-/

namespace Schemata.Yaml

def octets (text : List Char) : TagText := text.map fun c => UInt8.ofNat c.toNat

/-- The octet of an exclamation mark. -/
def bang : UInt8 := 0x21

/-! ## Anchors and aliases -/

/-- The characters that may follow a name at once. -/
def endsName : List Char → Bool
  | [] => true
  | c :: _ => isBlank c || isBreak c || "?:,]\x7d%@`".toList.contains c

def scanName (activity : Activity) (since : Mark) (s : Cursor) :
    Except Error (String × Cursor) :=
  let (name, s) := s.next.span isNameChar
  if name.isEmpty || !endsName s.rest then s.fail .noNameCharacter activity since
  else .ok (String.ofList name, s)

def scanAnchor (s : Cursor) : Except Error (Token × Cursor) := do
  let (name, s') ← scanName .anchor s.mark s
  return ({ kind := .anchor name, start := s.mark, stop := s'.mark }, s')

def scanAlias (s : Cursor) : Except Error (Token × Cursor) := do
  let (name, s') ← scanName .alias s.mark s
  return ({ kind := .alias name, start := s.mark, stop := s'.mark }, s')

/-! ## Tags -/

/-- The characters a tag may hold as they are. -/
def isTagChar (verbatim : Bool) (c : Char) : Bool :=
  isNameChar c || ";/?:@&=+$.%!~*'()".toList.contains c ||
  (verbatim && (c == ',' || c == '[' || c == ']'))

/-- The number of octets in the UTF-8 sequence that an octet leads. -/
def octetsLed? (octet : Nat) : Option Nat :=
  if octet < 0x80 then some 1 else if octet < 0xC0 then none
  else if octet < 0xE0 then some 2 else if octet < 0xF0 then some 3
  else if octet < 0xF8 then some 4 else none

/-- Reads a percent sign and two digits. -/
def scanOctet (activity : Activity) (since : Mark) (s : Cursor) : Except Error (Nat × Cursor) :=
  match s.rest with
  | '%' :: a :: b :: _ =>
    match hexValue? a, hexValue? b with
    | some high, some low => .ok (high * 16 + low, s.advance 3)
    | _, _ => s.fail .noEscapedOctet activity since
  | _ => s.fail .noEscapedOctet activity since

/-- Reads the trailing octets of an escaped character. -/
def scanTrail (activity : Activity) (since : Mark) :
    Nat → TagText → Cursor → Except Error (TagText × Cursor)
  | 0, acc, s => .ok (acc, s)
  | n + 1, acc, s => do
    let (octet, s') ← scanOctet activity since s
    if octet < 0x80 || 0xC0 ≤ octet then s.fail .strayTrailOctet activity since
    scanTrail activity since n (acc ++ [UInt8.ofNat octet]) s'

/-- Reads the escapes that spell one character. -/
def scanEscapes (activity : Activity) (since : Mark) (s : Cursor) :
    Except Error (TagText × Cursor) := do
  let (lead, s') ← scanOctet activity since s
  match octetsLed? lead with
  | none => s.fail .strayLeadOctet activity since
  | some count => scanTrail activity since (count - 1) [UInt8.ofNat lead] s'

/-- Reads the characters of a tag. -/
def scanTagChars (verbatim : Bool) (activity : Activity) (since : Mark) :
    Nat → TagText → Cursor → Except Error (TagText × Cursor)
  | 0, acc, s => .ok (acc, s)
  | fuel + 1, acc, s =>
    match s.peek with
    | some c =>
      if !isTagChar verbatim c then .ok (acc, s)
      else if c == '%' then do
        let (escaped, s) ← scanEscapes activity since s
        scanTagChars verbatim activity since fuel (acc ++ escaped) s
      else scanTagChars verbatim activity since fuel (acc ++ octets [c]) s.next
    | none => .ok (acc, s)

/-- Reads the text of a tag after a front part that has been read already; the two together may
not be empty. -/
def scanTagText (verbatim : Bool) (activity : Activity) (since : Mark) (front : TagText)
    (s : Cursor) : Except Error (TagText × Cursor) := do
  let (text, s') ← scanTagChars verbatim activity since s.rest.length front.tail s
  if front.isEmpty && text.isEmpty then s'.fail .noTagUri activity since
  return (text, s')

/-- Reads an exclamation mark, name characters, and a second mark if one follows. -/
def scanHandle (s : Cursor) : TagText × Cursor :=
  let (name, s') := s.next.span isNameChar
  if s'.isAt '!' then (bang :: octets name ++ [bang], s'.next) else (bang :: octets name, s')

/-- Whether the text is a handle: two marks with a name, maybe empty, between them. -/
def isHandle (text : TagText) : Bool := 2 ≤ text.length && text.getLast? == some bang

/-- The handle and the suffix of a tag that is not verbatim. The mark alone is a tag of its
own. -/
def scanShorthand (since : Mark) (s : Cursor) : Except Error (TagText × TagText × Cursor) := do
  let (handle, s) := scanHandle s
  if isHandle handle then
    let (suffix, s) ← scanTagText false .tagText since [] s
    return (handle, suffix, s)
  else
    let (suffix, s) ← scanTagText false .tagText since handle s
    return if suffix.isEmpty then ([], [bang], s) else ([bang], suffix, s)

def scanVerbatim (since : Mark) (s : Cursor) : Except Error (TagText × TagText × Cursor) := do
  let (suffix, s) ← scanTagText true .tagText since [] (s.advance 2)
  if !s.isAt '>' then s.fail .noAngle .tag since
  return ([], suffix, s.next)

def scanTag (inFlow : Bool) (s : Cursor) : Except Error (Token × Cursor) := do
  let since := s.mark
  let (handle, suffix, s) ←
    if s.next.isAt '<' then scanVerbatim since s else scanShorthand since s
  if !blankOrEnd s.rest && !(inFlow && s.isAt ',') then s.fail .noBlankOrBreak .tag since
  return ({ kind := .tag handle suffix, start := since, stop := s.mark }, s)

/-! ## Directives -/

/-- Version numbers have at most nine digits. -/
def scanVersionNumber (since : Mark) (s : Cursor) : Except Error (Nat × Cursor) :=
  let (digits, s') := s.span Char.isDigit
  if 9 < digits.length then (s.advance 9).fail .longVersion .versionDirective since
  else if digits.isEmpty then s.fail .noVersion .versionDirective since
  else .ok (digits.foldl (fun acc d => acc * 10 + (d.toNat - '0'.toNat)) 0, s')

def scanVersion (since : Mark) (s : Cursor) : Except Error (Token.Kind × Cursor) := do
  let (major, s) ← scanVersionNumber since s.skipBlanks
  if !s.isAt '.' then s.fail .noDigitOrPoint .versionDirective since
  let (minor, s) ← scanVersionNumber since s.next
  return (.versionDirective major minor, s)

/-- Reads what a handle is to stand for. -/
def scanTagDirective (since : Mark) (s : Cursor) : Except Error (Token.Kind × Cursor) := do
  let s := s.skipBlanks
  if !s.isAt '!' then s.fail .noBang .tagDirectiveStart since
  let (handle, s) := scanHandle s
  if !isHandle handle && handle != [bang] then s.fail .noBang .tagDirectiveHandle since
  if !s.peek.any isBlank then s.fail .noBlank .tagDirective since
  let (meaning, s) ← scanTagText true .tagDirectivePrefix since [] s.skipBlanks
  if !blankOrEnd s.rest then s.fail .noBlankOrBreak .tagDirective since
  return (.tagDirective handle meaning, s)

/-- Reads a directive and the rest of its line. -/
def scanDirective (s : Cursor) : Except Error (Token × Cursor) := do
  let since := s.mark
  let (name, s) := s.next.span isNameChar
  if name.isEmpty then s.fail .noDirectiveName .directive since
  if !blankOrEnd s.rest then s.fail .notAlphabetic .directive since
  let (kind, s) ←
    if name == "YAML".toList then scanVersion since s
    else if name == "TAG".toList then scanTagDirective since s
    else s.fail .unknownDirective .directive since
  let token := { kind, start := since, stop := s.mark }
  let s := s.skipBlanks.skipComment
  if !breakOrEnd s.rest then s.fail .noCommentOrBreak .directive since
  return (token, s.skipBreak)

end Schemata.Yaml
