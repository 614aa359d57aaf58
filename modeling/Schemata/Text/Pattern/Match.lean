import Schemata.Text.Pattern.Basic
import Schemata.Text.Property.Flag

/-!
# Matches of patterns

`Pattern.reach` gives, for each place of a text, the places where matches that begin there end. A
set of places is a number whose bits tell its members. Matches never go back, so what any number
of steps reaches follows from the last place to the first, and steps beyond the number of places
reach nothing more.
-/

namespace Schemata.Text

/-- A set of places: bit `i` tells whether place `i` is in it. -/
abbrev Places := Nat

/-- For each place of a text the places that are reached from it. -/
abbrev Reach := List Places

namespace Reach

/-- The places that are reached from those of a set; `reach` begins at place `i`. -/
def image (places : Places) (i : Nat) : Reach → Places
  | [] => 0
  | row :: rest => (if places.testBit i then row else 0) ||| image places (i + 1) rest

/-- First one reach and then another. -/
def comp (r s : Reach) : Reach := r.map fun row => if row = 0 then 0 else image row 0 s

def union (r s : Reach) : Reach := List.zipWith (· ||| ·) r s

/-- Every place reaches itself alone. -/
def identity (r : Reach) : Reach := (List.range r.length).map fun i => 1 <<< i

/-- Any number of steps: a place reaches itself, and what the later places that it reaches do. The
rows begin at place `i`. -/
def closure (i : Nat) : Reach → Reach
  | [] => []
  | row :: rest =>
    let later := closure (i + 1) rest
    ((1 <<< i) ||| image row (i + 1) later) :: later

/-- So many steps. -/
def power (r : Reach) (n : Nat) : Reach :=
  if _h : n = 0 then r.identity
  else
    let half := power r (n / 2)
    let even := comp half half
    if n % 2 = 0 then even else comp even r
termination_by n

/-- A number of steps between bounds. -/
def times (r : Reach) (least : Nat) (most : Option Nat) : Reach :=
  let first := power r (min least r.length)
  match most with
  | none => comp first (closure 0 r)
  | some most => comp first (power (union r.identity r) (min (most - least) r.length))

end Reach

/-! ## Places in a text -/

/-- What is before and behind each place of a text. -/
def neighbours (before : Option Char) : List Char → List (Option Char × Option Char)
  | [] => [(before, none)]
  | c :: rest => (before, some c) :: neighbours (some c) rest

/-- Whether a place between two characters, each of which is part of a word or not, is of a
kind. -/
def WordPlace.holds (before after : Bool) : WordPlace → Bool
  | .edge => before != after
  | .noEdge => before == after
  | .start => !before && after
  | .stop => before && !after
  | .startHalf => !before
  | .stopHalf => !after

def isAsciiWordChar (c : Char) : Bool := c.isAlphanum || c == '_'

/-- Whether a look holds between two characters. A line feed behind a carriage return ends no line
of its own. -/
def Look.holds (before after : Option Char) : Look → Bool
  | .textStart => before.isNone
  | .textStop => after.isNone
  | .lineStart false => before.all (· == '\n')
  | .lineStop false => after.all (· == '\n')
  | .lineStart true =>
    before.isNone || before == some '\n' || (before == some '\r' && after != some '\n')
  | .lineStop true =>
    after.isNone || after == some '\r' || (after == some '\n' && before != some '\r')
  | .word unicode kind =>
    let isPart := if unicode then isWordChar else isAsciiWordChar
    kind.holds (before.any isPart) (after.any isPart)

namespace Pattern

/-- The reach of what stays in place where it holds. -/
def stay (holds : Option Char × Option Char → Bool) (t : List (Option Char × Option Char)) :
    Reach :=
  t.mapIdx fun i p => if holds p then 1 <<< i else 0

/-- The reach of one character. -/
def take (holds : Char → Bool) (t : List (Option Char × Option Char)) : Reach :=
  t.mapIdx fun i p => if p.2.any holds then 1 <<< (i + 1) else 0

mutual

/-- The places that matches of a pattern reach in a text. -/
def reach (t : List (Option Char × Option Char)) : Pattern → Reach
  | .empty => stay (fun _ => true) t
  | .chars s => take (s.contains ·.toNat) t
  | .look l => stay (fun p => l.holds p.1 p.2) t
  | .seq parts => reachAll t parts
  | .alt branches => reachAny t branches
  | .repetition p least most => (p.reach t).times least most
  | .group p => p.reach t

/-- All parts, one after the other. -/
def reachAll (t : List (Option Char × Option Char)) : List Pattern → Reach
  | [] => stay (fun _ => true) t
  | p :: rest => (p.reach t).comp (reachAll t rest)

/-- Any of the branches. -/
def reachAny (t : List (Option Char × Option Char)) : List Pattern → Reach
  | [] => stay (fun _ => false) t
  | p :: rest => (p.reach t).union (reachAny t rest)

end

/-- Whether a match begins somewhere in a text. -/
def occursIn (p : Pattern) (s : String) : Bool :=
  (p.reach (neighbours none s.toList)).any (· != 0)

end Pattern

end Schemata.Text
