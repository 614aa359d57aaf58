import Schemata.Text.CodeSet

/-!
# Patterns

What a pattern asks of a text: characters of sets one after the other, in branches and repetitions,
and conditions on the characters around a place.
-/

namespace Schemata.Text

/-- What a place is to a word. -/
inductive WordPlace where
  | edge | noEdge | start | stop | startHalf | stopHalf
deriving DecidableEq, Repr

/-- A condition on the characters around a place. -/
inductive Look where
  | textStart | textStop
  /-- Lines end at line feeds, or also at carriage returns. -/
  | lineStart (carriageReturns : Bool)
  | lineStop (carriageReturns : Bool)
  /-- Words are of characters beyond ASCII too, or of ASCII alone. -/
  | word (unicode : Bool) (kind : WordPlace)
deriving DecidableEq, Repr

inductive Pattern where
  | empty
  | chars (s : CodeSet)
  | look (l : Look)
  | seq (parts : List Pattern)
  | alt (branches : List Pattern)
  | repetition (p : Pattern) (least : Nat) (most : Option Nat)
  | group (p : Pattern)

namespace Pattern

mutual

/-- The least number of characters that a pattern takes. -/
def minLength : Pattern → Nat
  | .empty | .look _ => 0
  | .chars _ => 1
  | .seq parts => minLengthSum parts
  | .alt branches => minLengthMin branches
  | .repetition p least _ => least * p.minLength
  | .group p => p.minLength

def minLengthSum : List Pattern → Nat
  | [] => 0
  | p :: rest => p.minLength + minLengthSum rest

def minLengthMin : List Pattern → Nat
  | [] => 0
  | [p] => p.minLength
  | p :: rest => min p.minLength (minLengthMin rest)

end

mutual

/-- Whether a pattern takes no character in any case. -/
def isEmptyOnly : Pattern → Bool
  | .empty | .look _ => true
  | .chars _ => false
  | .seq parts | .alt parts => areEmptyOnly parts
  | .repetition p _ most => p.isEmptyOnly || most == some 0
  | .group p => p.isEmptyOnly

def areEmptyOnly : List Pattern → Bool
  | [] => true
  | p :: rest => p.isEmptyOnly && areEmptyOnly rest

end

/-- A repetition. Once is enough of what takes no character, and what is repeated once stands by
itself. -/
def repeated (p : Pattern) (least : Nat) (most : Option Nat) : Pattern :=
  let (least, most) :=
    if p.isEmptyOnly then (min least 1, some (min (most.getD 1) 1)) else (least, most)
  match least, most with
  | 0, some 0 => .empty
  | 1, some 1 => p
  | _, _ => .repetition p least most

/-- The set of a pattern that takes one character. -/
def set? : Pattern → Option CodeSet
  | .chars s => some s
  | _ => none

/-- Branches. Sets of characters side by side are one set. -/
def oneOf (branches : List Pattern) : Pattern :=
  match branches.mapM set? with
  | some sets => .chars (.unions sets)
  | none => .alt branches

end Pattern

end Schemata.Text
