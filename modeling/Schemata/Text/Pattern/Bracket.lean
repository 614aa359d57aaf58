import Schemata.Text.Pattern.Escape

/-!
# Classes in brackets

Reading of characters, ranges, named classes and nested classes between brackets. Operations on
sets stand between unions of such members and take what is before them as their left side.
-/

namespace Schemata.Text.Pattern

open Reading

/-- The members of a class so far, last first. -/
structure Members where
  span : Span
  members : List Member := []

namespace Members

def push (ms : Members) (m : Member) : Members :=
  let first := if ms.members.isEmpty then m.span.first else ms.span.first
  { span := { first, last := m.span.last }, members := m :: ms.members }

/-- The members as one. -/
def one (ms : Members) : Member :=
  match ms.members with
  | [] => .empty ms.span
  | [m] => m
  | members => .union ms.span members.reverse

end Members

/-- The left side of an operation, with the operation. -/
abbrev Pending := Option (Inside × SetOp)

/-- Takes what was pending together with the members behind it. -/
def Pending.join (pending : Pending) (m : Member) : Inside :=
  match pending with
  | none => .member m
  | some (lhs, op) => .op { first := lhs.span.first, last := m.span.last } op lhs (.member m)

/-- The classes of ASCII characters that have names. -/
def asciiClasses : List (String × String) :=
  [("alnum", "30-39 41-5A 61-7A"), ("alpha", "41-5A 61-7A"), ("ascii", "0-7F"), ("blank", "9 20"),
    ("cntrl", "0-1F 7F"), ("digit", "30-39"), ("graph", "21-7E"), ("lower", "61-7A"),
    ("print", "20-7E"), ("punct", "21-2F 3A-40 5B-60 7B-7E"), ("space", "9-D 20"),
    ("upper", "41-5A"), ("word", "30-39 41-5A 5F 61-7A"), ("xdigit", "30-39 41-46 61-66")]

/-- Reads a named class such as `[:alpha:]` if the cursor is at one. -/
def readAsciiClass? : Reading (Option Member) := do
  let c ← get
  let named (negated : Bool) (cs : List Char) : Reading (Option Member) := do
    let (name, rest) := cs.span (· != ':')
    match asciiClasses.lookup (String.ofList name), rest with
    | some table, ':' :: ']' :: _ =>
      discard (accept (String.ofList (c.rest.take (c.rest.length - rest.length + 2))))
      return some (.ascii (← spanSince c.place) negated (.read table))
    | _, _ => return none
  match c.rest with
  | '[' :: ':' :: '^' :: cs => named true cs
  | '[' :: ':' :: cs => named false cs
  | _ => return none

/-- One character or escape between brackets. -/
def readMemberPart : Reading Primitive := do
  let span ← charSpan
  match ← next? with
  | some '\\' => readEscape
  | c =>
    advance
    return .literal { span, char := c.getD ' ' }

/-- What a character or an escape means as a member. -/
def memberOf (p : Primitive) : Reading Member := do
  match p with
  | .literal _ | .shorthand .. | .property .. => return .primitive p
  | _ => fail .escapeInClass p.span.first p.span.last

/-- A boundary of a range. -/
def boundaryOf (p : Primitive) : Reading Literal := do
  match p with
  | .literal l => return l
  | _ => fail .noRangeEnd p.span.first p.span.last

/-- Reads a character, a class of one escape, or a range; `opening` is the span of the bracket that
is open. A dash is no range before a closing bracket or another dash. -/
def readRange (opening : Span) : Reading Member := do
  let first ← readMemberPart
  skip
  if ← isAtEnd then fail .unclosedClass opening.first opening.last
  let c ← get
  if c.rest.head? != some '-' || c.second? == some ']' || c.second? == some '-' then
    memberOf first
  else
    if !(← advanceOver) then fail .unclosedClass opening.first opening.last
    let last ← readMemberPart
    let span : Span := { first := first.span.first, last := last.span.last }
    let low ← boundaryOf first
    let high ← boundaryOf last
    if high.char < low.char then fail .reversedRange span.first span.last
    return .range span low high

/-- Reads dashes that a class begins with. -/
def readDashes (start : Place) : Nat → Members → Reading Members
  | 0, ms => return ms
  | fuel + 1, ms => do
    if (← next?) == some '-' then
      let span ← charSpan
      if !(← advanceOver) then fail .unclosedClass start start
      readDashes start fuel (ms.push (.primitive (.literal { span, char := '-' })))
    else return ms

/-- What the opening of a class tells: its span, whether the class is negated, and the members that
stand for themselves because they come first. -/
structure Opening where
  span : Span
  negated : Bool
  members : Members

/-- Reads the opening of a class. Dashes come first or a closing bracket does. -/
def readOpening : Reading Opening := do
  let start ← here
  if !(← advanceOver) then failSince start .unclosedClass
  let negated := (← next?) == some '^'
  if negated then
    if !(← advanceOver) then failSince start .unclosedClass
  let ms ← readDashes start (← fuel) { span := ← spanSince (← here) }
  if ms.members.isEmpty && (← next?) == some ']' then
    let span ← charSpan
    if !(← advanceOver) then failSince start .unclosedClass
    return { span := ← spanSince start, negated
             members := ms.push (.primitive (.literal { span, char := ']' })) }
  else return { span := ← spanSince start, negated, members := ms }

/-- The operations on sets, each by the two characters it is written with. -/
def setOps : List (String × SetOp) := [("&&", .inter), ("--", .diff), ("~~", .symmDiff)]

/-- Reads an operation if the cursor is at one. -/
def readSetOp? : List (String × SetOp) → Reading (Option SetOp)
  | [] => return none
  | (written, op) :: rest => do if ← accept written then return some op else readSetOp? rest

mutual

/-- Reads a class; the cursor is at its opening bracket. -/
def readBracket : Nat → Reading Bracket
  | 0 => failHere .unclosedClass
  | fuel + 1 => do
    let opening ← readOpening
    let inside ← readInside opening.span fuel none opening.members
    advance
    return .mk (← spanSince opening.span.first) opening.negated inside

/-- Reads members up to the closing bracket. -/
def readInside (opening : Span) : Nat → Pending → Members → Reading Inside
  | 0, _, _ => failHere .unclosedClass
  | fuel + 1, pending, ms => do
    skip
    match ← next? with
    | none => fail .unclosedClass opening.first opening.last
    | some ']' => return pending.join ms.one
    | some '[' =>
      match ← readAsciiClass? with
      | some m => readInside opening fuel pending (ms.push m)
      | none =>
        let b ← readBracket fuel
        readInside opening fuel pending (ms.push (.nested b))
    | some _ =>
      match ← readSetOp? setOps with
      | some op =>
        readInside opening fuel (some (pending.join ms.one, op)) { span := ← spanSince (← here) }
      | none => readInside opening fuel pending (ms.push (← readRange opening))

end

end Schemata.Text.Pattern
