import Schemata.Text.Pattern.Fault
import Schemata.Text.Property.Query

/-!
# Trees of patterns

A `Tree` is a pattern as it is written, with the span of each part. `Tree.tooDeep?` finds the first
part that is nested too deep.
-/

namespace Schemata.Text.Pattern

/-- A character that stands for itself. -/
structure Literal where
  span : Span
  char : Char
  /-- Whether it is written by two hexadecimal digits, and can mean an octet. -/
  isOctet : Bool := false
deriving Repr

/-- What an assertion asks of the characters around a place. -/
inductive Assertion where
  | lineStart | lineStop | textStart | textStop
  | edge | noEdge | wordStart | wordStop | wordStartHalf | wordStopHalf
deriving DecidableEq, Repr

/-- Classes of one letter. -/
inductive Shorthand where
  | digit | space | word
deriving DecidableEq, Repr

/-- What matches by itself. -/
inductive Primitive where
  | literal (l : Literal)
  | dot (span : Span)
  | assertion (span : Span) (kind : Assertion)
  | shorthand (span : Span) (negated : Bool) (kind : Shorthand)
  | property (span : Span) (negated : Bool) (query : Query)
deriving Repr

def Primitive.span : Primitive → Span
  | .literal l => l.span
  | .dot span | .assertion span _ | .shorthand span .. | .property span .. => span

inductive SetOp where
  | inter | diff | symmDiff
deriving DecidableEq, Repr

mutual

/-- A part of a class in brackets. -/
inductive Member where
  | empty (span : Span)
  | primitive (p : Primitive)
  | range (span : Span) (first last : Literal)
  | ascii (span : Span) (negated : Bool) (chars : CodeSet)
  | nested (b : Bracket)
  | union (span : Span) (members : List Member)

/-- What is between brackets: one member, or an operation on two sets. -/
inductive Inside where
  | member (m : Member)
  | op (span : Span) (op : SetOp) (lhs rhs : Inside)

/-- A class in brackets. -/
inductive Bracket where
  | mk (span : Span) (negated : Bool) (inside : Inside)

end

namespace Bracket

def span : Bracket → Span
  | .mk span _ _ => span

end Bracket

def Member.span : Member → Span
  | .empty span | .range span .. | .ascii span .. | .union span _ => span
  | .primitive p => p.span
  | .nested b => b.span

def Inside.span : Inside → Span
  | .member m => m.span
  | .op span .. => span

/-- What a flag changes. -/
inductive Mode where
  | anyCase | lines | dotAll | swapGreed | unicode | carriageReturns | loose
deriving DecidableEq, Repr

/-- A flag, or the dash that turns off the flags behind it. -/
structure FlagItem where
  span : Span
  mode : Option Mode
deriving Repr

/-- Whether flags turn a mode on or off. -/
def flagState (mode : Mode) (items : List FlagItem) : Option Bool :=
  let (before, rest) := items.span (·.mode != some mode)
  if rest.isEmpty then none else some !(before.any (·.mode.isNone))

inductive Tree where
  | empty (span : Span)
  | flags (span : Span) (items : List FlagItem)
  | primitive (p : Primitive)
  | bracket (b : Bracket)
  | repetition (span : Span) (sub : Tree) (least : Nat) (most : Option Nat)
  | group (span : Span) (isCapture : Bool) (flags : List FlagItem) (sub : Tree)
  | branches (span : Span) (subs : List Tree)
  | concat (span : Span) (subs : List Tree)

namespace Tree

def span : Tree → Span
  | .empty span | .flags span _ | .repetition span .. | .group span .. | .branches span _
  | .concat span _ => span
  | .primitive p => p.span
  | .bracket b => b.span

/-- Whether a repetition can follow. -/
def isRepeatable : Tree → Bool
  | .empty _ | .flags .. => false
  | _ => true

end Tree

/-! ## Nesting -/

/-- The span, if something at this depth is too deep; else what is found inside. -/
def orDeeper (depth : Nat) (span : Span) (inside : Option Span) : Option Span :=
  if maxNesting < depth + 1 then some span else inside

mutual

def Member.tooDeep? (depth : Nat) : Member → Option Span
  | .nested b => b.tooDeep? depth
  | .union span members => orDeeper depth span (membersTooDeep? (depth + 1) members)
  | _ => none

def membersTooDeep? (depth : Nat) : List Member → Option Span
  | [] => none
  | m :: rest => (m.tooDeep? depth).or (membersTooDeep? depth rest)

def Inside.tooDeep? (depth : Nat) : Inside → Option Span
  | .member m => m.tooDeep? depth
  | .op span _ lhs rhs =>
    orDeeper depth span ((lhs.tooDeep? (depth + 1)).or (rhs.tooDeep? (depth + 1)))

def Bracket.tooDeep? (depth : Nat) : Bracket → Option Span
  | .mk span _ inside => orDeeper depth span (inside.tooDeep? (depth + 1))

end

mutual

/-- The first part that is nested too deep, if `depth` parts are around the whole. -/
def Tree.tooDeep? (depth : Nat) : Tree → Option Span
  | .bracket b => b.tooDeep? depth
  | .repetition span sub _ _ | .group span _ _ sub =>
    orDeeper depth span (sub.tooDeep? (depth + 1))
  | .branches span subs | .concat span subs =>
    orDeeper depth span (treesTooDeep? (depth + 1) subs)
  | _ => none

def treesTooDeep? (depth : Nat) : List Tree → Option Span
  | [] => none
  | t :: rest => (t.tooDeep? depth).or (treesTooDeep? depth rest)

end

end Schemata.Text.Pattern
