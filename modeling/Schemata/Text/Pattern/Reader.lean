import Schemata.Text.Pattern.Bracket

/-!
# Reading patterns

`Tree.read` reads a pattern: branches between bars, each a sequence of items with repetitions
behind them, and groups around them.
-/

namespace Schemata.Text.Pattern

open Reading

/-! ## Repetitions -/

/-- Reads a number of decimal digits and the blanks around it. That there is none, or that it is
too great, is left to whoever needs the number. -/
def readNumber : Reading (Except Fault Nat) := do
  discard (takeBlanks false (← fuel))
  let first ← here
  let digits ← takeWhile Char.isDigit (← fuel)
  let span ← spanSince first
  discard (takeBlanks true (← fuel))
  if digits.isEmpty then return .error { wrong := .emptyCount, span }
  let n := digits.foldl (fun acc c => acc * 10 + (c.toNat - 48)) 0
  return if 0xFFFFFFFF < n then .error { wrong := .badDecimal, span } else .ok n
where
  /-- Goes over blanks, and over comments behind them if `comments`. -/
  takeBlanks (comments : Bool) : Nat → Reading Unit
    | 0 => return
    | fuel + 1 => do
      if (← next?).any isWhitespace then
        if comments then discard advanceOver else advance
        takeBlanks comments fuel

/-- Reads the numbers of a count up to the closing brace; `start` is the place of the opening
one. -/
def readBounds (start : Place) : Reading (Nat × Option Nat) := do
  if !(← advanceOver) then failSince start .unclosedCount
  let least ← readNumber
  match ← next? with
  | none => failSince start .unclosedCount
  | some ',' =>
    if !(← advanceOver) then failSince start .unclosedCount
    if (← next?) == some '\x7d' then return (← least, none)
    else
      let least ← least
      return (least, some (← (← readNumber)))
  | some _ =>
    let n ← least
    return (n, some n)

/-- Skips the mark of a repetition that takes as little as it can. -/
def skipLazyMark : Reading Unit := do
  if (← next?) == some '?' then advance

/-- Reads a count in braces. -/
def readCount : Reading (Nat × Option Nat) := do
  let start ← here
  let (least, most) ← readBounds start
  if (← next?) != some '\x7d' then failSince start .unclosedCount
  discard advanceOver
  skipLazyMark
  if most.any (· < least) then failSince start .reversedCount
  return (least, most)

/-- Reads a repetition if the cursor is at one; the place of a fault is that of the mark. -/
def readRepetition (c : Char) : Reading (Nat × Option Nat) := do
  if c == '\x7b' then readCount
  else
    advance
    skipLazyMark
    return if c == '*' then (0, none) else if c == '+' then (1, none) else (0, some 1)

/-! ## Groups -/

/-- Whether a character may stand in the name of a group. -/
def isNameChar (isFirst : Bool) (c : Char) : Bool :=
  if isFirst then c == '_' || Flag.alphabetic.chars.contains c.toNat
  else c == '_' || c == '.' || c == '[' || c == ']' || isAlphanumeric c

/-- Reads the characters of a name up to the closing angle. -/
def readNameChars : Bool → Nat → Reading (List Char)
  | _, 0 => return []
  | isFirst, fuel + 1 => do
    match ← next? with
    | none | some '>' => return []
    | some c =>
      if isNameChar isFirst c then
        advance
        return c :: (← readNameChars false fuel)
      else failAtChar .badName

/-- Reads the name of a group with the angle behind it. -/
def readName : Reading Unit := do
  let first ← here
  let name ← readNameChars true (← fuel)
  let span ← spanSince first
  if ← isAtEnd then failHere .unclosedName
  advance
  if name.isEmpty then fail .emptyName first first
  let written := String.ofList name
  match (← get).names.lookup written with
  | some earlier => throw { wrong := .duplicateName, span, earlier := some earlier }
  | none => modify fun c => { c with names := (written, span) :: c.names }

def modes : List (Char × Mode) :=
  [('i', .anyCase), ('m', .lines), ('s', .dotAll), ('U', .swapGreed), ('u', .unicode),
    ('R', .carriageReturns), ('x', .loose)]

/-- Reads one flag; `before` are the flags before it. -/
def readFlag (c : Char) (before : List FlagItem) : Reading FlagItem := do
  let span ← charSpan
  let mode ← match c, modes.lookup c with
    | '-', _ => pure none
    | _, some mode => pure (some mode)
    | _, none => fail .unknownFlag span.first span.last
  match before.find? (·.mode == mode) with
  | none => return { span, mode }
  | some item =>
    let wrong : Wrong := if mode.isNone then .repeatedNegation else .duplicateFlag
    throw { wrong, span, earlier := some item.span }

/-- Reads flags up to the mark behind them. -/
def readFlags : Nat → List FlagItem → Reading (List FlagItem)
  | 0, items => return items
  | fuel + 1, items => do
    match ← next? with
    | none => failHere .endsInFlags
    | some c =>
      if c == ':' || c == ')' then
        match items.getLast? with
        | some { span, mode := none } => fail .danglingNegation span.first span.last
        | _ => return items
      else
        let item ← readFlag c items
        advance
        readFlags fuel (items ++ [item])

/-- What the opening of a group begins. -/
inductive GroupOpening where
  /-- Flags for what follows. -/
  | flags (span : Span) (items : List FlagItem)
  | group (span : Span) (isCapture : Bool) (items : List FlagItem)

/-- The openings of groups that look around. -/
def lookArounds : List String := ["?=", "?!", "?<=", "?<!"]

/-- Whether the cursor is at one of some texts, which is then read. -/
def acceptAny : List String → Reading Bool
  | [] => return false
  | text :: rest => do if ← accept text then return true else acceptAny rest

/-- Reads the opening of a group. -/
def readGroupOpening : Reading GroupOpening := do
  let opening ← charSpan
  discard advanceOver
  if ← acceptAny lookArounds then failSince opening.first .lookAround
  let inner ← here
  if ← acceptAny ["?P<", "?<"] then
    readName
    return .group opening true []
  else if ← accept "?" then
    if ← isAtEnd then fail .unclosedGroup opening.first opening.last
    let items ← readFlags (← fuel) []
    let mark ← next?
    advance
    if mark == some ')' then
      if items.isEmpty then fail .nothingToRepeat inner inner
      return .flags (← spanSince opening.first) items
    else return .group opening false items
  else return .group opening true []

/-! ## Sequences and branches -/

/-- Items in a row as one tree. -/
def treeOf (span : Span) : List Tree → Tree
  | [] => .empty span
  | [t] => t
  | items => .concat span items

/-- Puts a repetition behind the last item; `items` are in reverse. -/
def repeatLast (c : Char) (items : List Tree) : Reading (List Tree) := do
  match items with
  | t :: rest =>
    if !t.isRepeatable then failHere .nothingToRepeat
    let (least, most) ← readRepetition c
    return .repetition (← spanSince t.span.first) t least most :: rest
  | [] => failHere .nothingToRepeat

mutual

/-- Reads a group, or flags; the cursor is at the opening parenthesis. -/
def readGroup : Nat → Reading Tree
  | 0 => failHere .unclosedGroup
  | fuel + 1 => do
    let outer := (← get).loose
    match ← readGroupOpening with
    | .flags span items =>
      modify fun c => { c with loose := (flagState .loose items).getD outer }
      return .flags span items
    | .group opening isCapture items =>
      modify fun c => { c with loose := (flagState .loose items).getD outer }
      let first ← here
      let sub ← readBranches first fuel []
      if ← isAtEnd then fail .unclosedGroup opening.first opening.last
      modify fun c => { c with loose := outer }
      advance
      return .group (← spanSince opening.first) isCapture items sub

/-- Reads branches up to a closing parenthesis or the end; `branches` are those before, last
first, and `first` is where they begin. -/
def readBranches (first : Place) : Nat → List Tree → Reading Tree
  | 0, _ => failHere .unclosedGroup
  | fuel + 1, branches => do
    let start ← here
    let items ← readItems fuel []
    let branch := treeOf (← spanSince start) items
    if (← next?) == some '|' then
      advance
      readBranches first fuel (branch :: branches)
    else if branches.isEmpty then return branch
    else return .branches (← spanSince first) (branch :: branches).reverse

/-- Reads items in a row; `items` are those before, last first. -/
def readItems : Nat → List Tree → Reading (List Tree)
  | 0, items => return items.reverse
  | fuel + 1, items => do
    skip
    match ← next? with
    | none | some ')' | some '|' => return items.reverse
    | some '(' => readItems fuel ((← readGroup fuel) :: items)
    | some '[' => readItems fuel (.bracket (← readBracket (2 * (← Reading.fuel))) :: items)
    | some '\\' => readItems fuel (.primitive (← readEscape) :: items)
    | some c =>
      if c == '?' || c == '*' || c == '+' || c == '\x7b' then
        readItems fuel (← repeatLast c items)
      else
        let span ← charSpan
        advance
        let p : Primitive := match c with
          | '.' => .dot span
          | '^' => .assertion span .lineStart
          | '$' => .assertion span .lineStop
          | c => .literal { span, char := c }
        readItems fuel (.primitive p :: items)

end

/-- Reads a whole pattern. -/
def readWhole : Reading Tree := do
  let tree ← readBranches (← here) (4 * (← fuel)) []
  if !(← isAtEnd) then failAtChar .unopenedGroup
  match tree.tooDeep? 0 with
  | some span => fail .tooDeep span.first span.last
  | none => return tree

def Tree.read (text : String) : Except Fault Tree := do
  let (tree, _) ← readWhole.run { rest := text.toList }
  return tree

end Schemata.Text.Pattern
