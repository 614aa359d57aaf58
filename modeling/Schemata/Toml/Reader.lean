import Schemata.Toml.Fault
import Schemata.Toml.Item

/-!
# Readers of TOML

A `Reader` reads a value at a place or refuses. A refusal tells the place where it happened; one
that is settled ends the reading, any other lets the next alternative try.
-/

namespace Schemata.Toml

/-- A place in a text: the number of octets before it and the characters after it. -/
structure Place where
  offset : Nat
  rest : List Char
deriving Repr

namespace Place

/-- The place after some characters at the front. -/
def after (p : Place) (front rest : List Char) : Place :=
  { offset := p.offset + octetCount front, rest }

end Place

/-- What came of reading. -/
inductive Reading (α : Type) where
  | done (value : α) (next : Place)
  | refused (settled : Bool) (fault : Fault) (place : Place)

def Reader (α : Type) : Type := Place → Reading α

namespace Reader

instance : Monad Reader where
  pure a := fun p => .done a p
  bind r f := fun p =>
    match r p with
    | .done a next => f a next
    | .refused settled fault place => .refused settled fault place

/-- Refuses right here. -/
def refuse : Reader α := fun p => .refused false {} p

/-- Refuses for a cause. -/
def refuseFor (cause : Cause) : Reader α := fun p => .refused false { cause := some cause } p

/-- The character here, if there is one; nothing is read. -/
def next? : Reader (Option Char) := fun p => .done p.rest.head? p

/-- Reads one character of a class. -/
def char (accepts : Char → Bool) : Reader Char := fun p =>
  match p.rest with
  | c :: rest => if accepts c then .done c (p.after [c] rest) else .refused false {} p
  | [] => .refused false {} p

/-- Reads the longest front of a class, maybe empty. -/
def span (accepts : Char → Bool) : Reader (List Char) := fun p =>
  let (front, rest) := p.rest.span accepts
  .done front (p.after front rest)

/-- Reads the longest front of a class with at least and at most so many characters. -/
def counted (low high : Nat) (accepts : Char → Bool) : Reader (List Char) := fun p =>
  let front := (p.rest.take high).takeWhile accepts
  if front.length < low then .refused false {} p
  else .done front (p.after front (p.rest.drop front.length))

/-- Reads the longest front of a class, which may not be empty. -/
def span1 (accepts : Char → Bool) : Reader (List Char) := fun p =>
  let (front, rest) := p.rest.span accepts
  if front.isEmpty then .refused false {} p else .done front (p.after front rest)

/-- Reads exactly this text. -/
def lit (s : String) : Reader Unit := fun p =>
  match s.toList.isPrefixOf? p.rest with
  | some rest => .done () (p.after s.toList rest)
  | none => .refused false {} p

def atEnd : Reader Unit := fun p =>
  if p.rest.isEmpty then .done () p else .refused false {} p

/-- Reads by the second reader where the first refuses. -/
def orElse (r s : Reader α) : Reader α := fun p =>
  match r p with
  | .refused false _ _ => s p
  | answer => answer

/-- Reads a value if there is one. -/
def maybe (r : Reader α) : Reader (Option α) := fun p =>
  match r p with
  | .done a next => .done (some a) next
  | .refused false _ _ => .done none p
  | .refused true fault place => .refused true fault place

/-- Settles every refusal. -/
def settle (r : Reader α) : Reader α := fun p =>
  match r p with
  | .done a next => .done a next
  | .refused _ fault place => .refused true fault place

/-- Looks ahead: reads without leaving this place. -/
def ahead (r : Reader α) : Reader α := fun p =>
  match r p with
  | .done a _ => .done a p
  | .refused settled fault _ => .refused settled fault p

/-- Notes in a refusal what was being read. -/
def named (rule : Rule) (r : Reader α) : Reader α := fun p =>
  match r p with
  | .refused settled fault place => .refused settled (fault.within rule) place
  | answer => answer

/-- Notes in a refusal what would have been fine. -/
def wanting (wanted : Wanted) (r : Reader α) : Reader α := fun p =>
  match r p with
  | .refused settled fault place => .refused settled (fault.wanting wanted) place
  | answer => answer

/-- Makes something of a value, or refuses where the value begins. -/
def checkedAs (settled : Bool) (r : Reader α) (check : α → Except Fault β) : Reader β := fun p =>
  match r p with
  | .done a next =>
    match check a with
    | .ok b => .done b next
    | .error fault => .refused settled fault p
  | .refused settled fault place => .refused settled fault place

/-- Makes something of a value; where it cannot, another reader may try. -/
def checked (r : Reader α) (check : α → Except Fault β) : Reader β := checkedAs false r check

/-- Makes something of a value; where it cannot, reading ends. -/
def checkedFirmly (r : Reader α) (check : α → Except Fault β) : Reader β :=
  checkedAs true r check

/-- A value and the stretch that it takes. -/
def spanned (r : Reader α) : Reader (α × Span) := fun p =>
  match r p with
  | .done a next => .done (a, { start := p.offset, stop := next.offset }) next
  | .refused settled fault place => .refused settled fault place

/-- Reads at most so many values. -/
def upTo (r : Reader α) : Nat → Reader (List α)
  | 0 => pure []
  | n + 1 => do
    match ← maybe r with
    | none => return []
    | some a => return a :: (← upTo r n)

/-- Reads values for as long as there are any. Each takes a character at least. -/
def many (r : Reader α) : Reader (List α) := fun p => upTo r p.rest.length p

/-- Reads one value or more. -/
def many1 (r : Reader α) : Reader (List α) := do return (← r) :: (← many r)

/-- Reads values with something between them, one or more. -/
def separated1 (r : Reader α) (separator : Reader Unit) : Reader (List α) := do
  return (← r) :: (← many (do separator; r))

/-- Reads values with something between them. -/
def separated (r : Reader α) (separator : Reader Unit) : Reader (List α) := do
  return (← maybe (separated1 r separator)).getD []

/-- The text that a reader takes. -/
def taken (r : Reader α) : Reader (List Char) := fun p =>
  match r p with
  | .done _ next => .done (p.rest.take (p.rest.length - next.rest.length)) next
  | .refused settled fault place => .refused settled fault place

end Reader

end Schemata.Toml
