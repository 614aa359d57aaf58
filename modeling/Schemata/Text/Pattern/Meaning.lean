import Schemata.Text.CaseFold
import Schemata.Text.Pattern.Basic
import Schemata.Text.Pattern.Tree

/-!
# Meanings of patterns

`Tree.meaning` turns a pattern as it is written into what it asks of a text. Flags hold from where
they stand to the end of the group. Without the flag for Unicode, sets are of octets, and those
beyond ASCII are refused, as they could match a part of a character.
-/

namespace Schemata.Text.Pattern

/-- The flags that hold at a place. -/
structure Modes where
  anyCase : Bool := false
  lines : Bool := false
  dotAll : Bool := false
  unicode : Bool := true
  carriageReturns : Bool := false
deriving Repr

/-- The modes that flags leave. -/
def Modes.with (m : Modes) (items : List FlagItem) : Modes :=
  { anyCase := (flagState .anyCase items).getD m.anyCase
    lines := (flagState .lines items).getD m.lines
    dotAll := (flagState .dotAll items).getD m.dotAll
    unicode := (flagState .unicode items).getD m.unicode
    carriageReturns := (flagState .carriageReturns items).getD m.carriageReturns }

def refuse (wrong : Wrong) (span : Span) : Except Fault α := .error { wrong, span }

namespace Modes

/-! ## Sets -/

/-- Adds what differs in case only, if case does not count. -/
def folded (m : Modes) (s : CodeSet) : CodeSet :=
  if !m.anyCase then s else if m.unicode then s.closeCase else s.closeAsciiCase

/-- A set that is complete: case is folded before the set is negated. -/
def finished (m : Modes) (span : Span) (negated : Bool) (s : CodeSet) : Except Fault CodeSet :=
  let s := m.folded s
  let s := if negated then s.compl else s
  if m.unicode || (s \ .ofRange 0 0x7F).isEmpty then .ok s else refuse .invalidUtf8 span

/-- The character that a literal means. -/
def literalChar (m : Modes) (l : Literal) : Except Fault Char :=
  if !m.unicode && l.isOctet && 0x7F < l.char.toNat then refuse .invalidUtf8 l.span
  else .ok l.char

/-- The character that a literal means in a set. -/
def memberChar (m : Modes) (l : Literal) : Except Fault Char := do
  let c ← m.literalChar l
  if m.unicode || c.toNat < 0x80 then return c else refuse .noUnicode l.span

/-- The characters of a class of one letter. -/
def shorthandChars (m : Modes) (kind : Shorthand) : CodeSet :=
  match m.unicode, kind with
  | true, .digit => Category.decimalNumber.chars
  | true, .space => Flag.whiteSpace.chars
  | true, .word => wordChars
  | false, .digit => .read "30-39"
  | false, .space => .read "9-D 20"
  | false, .word => .read "30-39 41-5A 5F 61-7A"

/-- A class of one letter; case makes no difference to it. -/
def shorthand (m : Modes) (span : Span) (negated : Bool) (kind : Shorthand) :
    Except Fault CodeSet :=
  ({ m with anyCase := false } : Modes).finished span negated (m.shorthandChars kind)

def property (m : Modes) (span : Span) (negated : Bool) (query : Query) : Except Fault CodeSet :=
  if !m.unicode then refuse .noUnicode span
  else
    match query.chars with
    | .ok s => m.finished span negated s
    | .error .noProperty => refuse .noProperty span
    | .error .noValue => refuse .noPropertyValue span

/-- The characters of a part of a class that stands by itself. -/
def primitiveChars (m : Modes) : Primitive → Except Fault CodeSet
  | .literal l => do return .ofChar (← m.memberChar l)
  | .shorthand span negated kind => m.shorthand span negated kind
  | .property span negated query => m.property span negated query
  | .dot _ | .assertion .. => .ok .empty

/-- The result of an operation on sets. -/
def operate (m : Modes) (op : SetOp) (lhs rhs : CodeSet) : CodeSet :=
  match op with
  | .inter => m.folded lhs ∩ m.folded rhs
  | .diff => m.folded lhs \ m.folded rhs
  | .symmDiff => (m.folded lhs).symmDiff (m.folded rhs)

end Modes

mutual

def Member.chars (m : Modes) : Member → Except Fault CodeSet
  | .empty _ => .ok .empty
  | .primitive p => m.primitiveChars p
  | .range _ first last => do
    let low ← m.memberChar first
    return .ofRange low.toNat (← m.memberChar last).toNat
  | .ascii span negated s => m.finished span negated s
  | .nested b => b.chars m
  | .union _ members => membersChars m members

def membersChars (m : Modes) : List Member → Except Fault CodeSet
  | [] => .ok .empty
  | mem :: rest => do
    let s ← mem.chars m
    return s ∪ (← membersChars m rest)

def Inside.chars (m : Modes) : Inside → Except Fault CodeSet
  | .member mem => mem.chars m
  | .op _ op lhs rhs => do
    let lhs ← lhs.chars m
    return m.operate op lhs (← rhs.chars m)

/-- The characters of a class in brackets. -/
def Bracket.chars (m : Modes) : Bracket → Except Fault CodeSet
  | .mk span negated inside => do m.finished span negated (← inside.chars m)

end

/-! ## Patterns -/

/-- What an assertion asks. -/
def Modes.look (m : Modes) : Assertion → Look
  | .lineStart => if m.lines then .lineStart m.carriageReturns else .textStart
  | .lineStop => if m.lines then .lineStop m.carriageReturns else .textStop
  | .textStart => .textStart
  | .textStop => .textStop
  | .edge => .word m.unicode .edge
  | .noEdge => .word m.unicode .noEdge
  | .wordStart => .word m.unicode .start
  | .wordStop => .word m.unicode .stop
  | .wordStartHalf => .word m.unicode .startHalf
  | .wordStopHalf => .word m.unicode .stopHalf

/-- What a dot takes: anything, or anything within a line. -/
def Modes.dotChars (m : Modes) : CodeSet :=
  if m.dotAll then .ofRange 0 CodeSet.maxCode
  else if m.carriageReturns then (CodeSet.read "A D").compl
  else (CodeSet.read "A").compl

def Modes.primitive (m : Modes) : Primitive → Except Fault Pattern
  | .literal l => do
    let c ← m.literalChar l
    return .chars (m.folded (.ofChar c))
  | .dot span => if m.unicode then .ok (.chars m.dotChars) else refuse .invalidUtf8 span
  | .assertion _ kind => .ok (.look (m.look kind))
  | .shorthand span negated kind => return .chars (← m.shorthand span negated kind)
  | .property span negated query => return .chars (← m.property span negated query)

mutual

/-- What a tree means, and the modes behind it. -/
def Tree.meaning (m : Modes) : Tree → Except Fault (Pattern × Modes)
  | .empty _ => .ok (.empty, m)
  | .flags _ items => .ok (.empty, m.with items)
  | .primitive p => return (← m.primitive p, m)
  | .bracket b => return (.chars (← b.chars m), m)
  | .repetition _ sub least most => do
    let (p, m) ← sub.meaning m
    return (p.repeated least most, m)
  | .group _ isCapture items sub => do
    let (p, _) ← sub.meaning (m.with items)
    return (if isCapture then .group p else p, m)
  | .branches _ subs => do
    let (ps, m) ← treesMeaning m subs
    return (.oneOf ps, m)
  | .concat _ subs => do
    let (ps, m) ← treesMeaning m subs
    return (.seq ps, m)

def treesMeaning (m : Modes) : List Tree → Except Fault (List Pattern × Modes)
  | [] => .ok ([], m)
  | t :: rest => do
    let (p, m) ← t.meaning m
    let (ps, m) ← treesMeaning m rest
    return (p :: ps, m)

end

end Schemata.Text.Pattern
