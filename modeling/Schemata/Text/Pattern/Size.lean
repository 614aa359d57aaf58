import Schemata.Text.Pattern.Basic

/-!
# Sizes of patterns

A pattern is measured by the automaton that would match its octets, forward or backward: so many
octets for each state, and some for each way out of a state. Patterns of more than `maxSize` are
refused.
-/

namespace Schemata.Text

/-! ## Octets of characters -/

/-- A range of octets. -/
abbrev OctetRange := Nat × Nat

/-- The greatest code points of one, two, three and four octets. -/
def lengthBounds : List Nat := [0x7F, 0x7FF, 0xFFFF, CodeSet.maxCode]

/-- The octets of a code point. -/
def octetsOf (code : Nat) : List Nat :=
  let tail (shift : Nat) : Nat := 0x80 + code / shift % 64
  if code < 0x80 then [code]
  else if code < 0x800 then [0xC0 + code / 64, tail 1]
  else if code < 0x10000 then [0xE0 + code / 4096, tail 64, tail 1]
  else [0xF0 + code / 262144, tail 4096, tail 64, tail 1]

/-- Cuts a range where codes get longer. -/
def cutByLength (first last : Nat) : List (Nat × Nat) :=
  go first lengthBounds
where
  go (first : Nat) : List Nat → List (Nat × Nat)
    | [] => []
    | bound :: rest =>
      if last < first then []
      else if bound < first then go first rest
      else (first, min last bound) :: go (bound + 1) rest

/-- Cuts a range so that each piece runs through all values of its last octets: `blocks` are the
sizes of what these octets run through. -/
def cutByBlocks : List Nat → Nat → Nat → List (Nat × Nat)
  | [], first, last => [(first, last)]
  | block :: rest, first, last =>
    if first / block = last / block then cutByBlocks rest first last
    else
      let start := if first % block = 0 then first else (first / block + 1) * block
      let stop := if (last + 1) % block = 0 then last + 1 else last / block * block
      (if first < start then cutByBlocks rest first (start - 1) else []) ++
        (if start < stop then [(start, stop - 1)] else []) ++
        (if stop ≤ last then cutByBlocks rest stop last else [])

/-- The ranges of octets that the characters of a range are written with. -/
def octetRanges (first last : Nat) : List (List OctetRange) :=
  (cutByLength first last).flatMap fun (first, last) =>
    let blocks := if first < 0x80 then [] else [262144, 4096, 64]
    (cutByBlocks blocks first last).map fun (a, b) => (octetsOf a).zip (octetsOf b)

/-- The sequences of octets for the characters of a set. -/
def CodeSet.sequences (s : CodeSet) : List (List OctetRange) :=
  (s \ .ofRange 0xD800 0xDFFF).ranges.flatMap fun (first, last) => octetRanges first last

namespace Pattern

/-! ## Automata of sets -/

/-- The size of a state. -/
def stateSize : Nat := 32

/-- The size of a way out by a range of octets. -/
def rangeSize : Nat := 8

/-- The size of a way out by nothing. -/
def branchSize : Nat := 4

/-- Puts sequences together that begin with the same range. -/
def grouped : List (List OctetRange) → List (OctetRange × List (List OctetRange))
  | [] => []
  | [] :: rest => grouped rest
  | (r :: tail) :: rest =>
    match grouped rest with
    | (r', tails) :: groups =>
      if r == r' then (r, tail :: tails) :: groups else (r, [tail]) :: (r', tails) :: groups
    | [] => [(r, [tail])]

/-- The states of an automaton so far: the ways out of each, by ranges to states. -/
abbrev States := List (List (OctetRange × Nat))

/-- Adds the states for sequences, at most so deep; equal states are one. The result is the number
of the first of them; number zero is where all sequences end. -/
def addStates : Nat → States → List (List OctetRange) → Nat × States
  | 0, states, _ => (0, states)
  | depth + 1, states, sequences =>
    if sequences.all List.isEmpty then (0, states)
    else
      let (ways, states) := (grouped sequences).foldl
        (fun (ways, states) (r, tails) =>
          let (target, states) := addStates depth states tails
          ((r, target) :: ways, states))
        (([] : List (OctetRange × Nat)), states)
      match states.reverse.findIdx? (· == ways) with
      | some i => (i + 1, states)
      | none => (states.length + 1, ways :: states)

/-- The size of a set forward: equal ends of sequences are shared. -/
def forwardSetSize (s : CodeSet) : Nat :=
  let (_, states) := addStates 4 [] s.sequences
  states.foldl (fun n ways => n + stateSize + rangeSize * ways.length) (2 * stateSize)

/-- The number of states for sequences whose beginnings are shared. -/
def prefixCount : Nat → List (List OctetRange) → Nat
  | 0, _ => 0
  | depth + 1, sequences =>
    (grouped sequences).foldl (fun n (_, tails) => n + 1 + prefixCount depth tails) 0

/-- The size of a set backward: equal beginnings of sequences are shared. -/
def backwardSetSize (s : CodeSet) : Nat :=
  let sequences := s.sequences
  2 * stateSize + branchSize * sequences.length + stateSize * prefixCount 4 sequences

/-- The size of a set: one character is a state for each octet, and ASCII takes one step. -/
def setSize (backward : Bool) (s : CodeSet) : Nat :=
  match s.ranges with
  | [(first, last)] =>
    if first = last then stateSize * (octetsOf first).length
    else if last < 0x80 then 2 * stateSize
    else if backward then backwardSetSize s
    else forwardSetSize s
  | ranges =>
    if ranges.all (·.2 < 0x80) then 2 * stateSize + rangeSize * ranges.length
    else if backward then backwardSetSize s
    else forwardSetSize s

/-! ## Automata of patterns -/

/-- The size of a repetition of something of a size; `mayBeEmpty` tells whether that can match
nothing. -/
def repetitionSize (size : Nat) (mayBeEmpty : Bool) (least : Nat) (most : Option Nat) : Nat :=
  let fork := stateSize + 2 * branchSize
  match least, most with
  | 0, some 1 => fork + size + stateSize
  | 0, none => if mayBeEmpty then size + 2 * fork + stateSize else fork + size
  | least, none => least * size + fork
  | least, some most =>
    let first := if least = 0 then stateSize else least * size
    if least = most then first else first + stateSize + (most - least) * (fork + size)

mutual

/-- The size of a pattern. Groups are marked in the forward direction alone. -/
def size (backward : Bool) : Pattern → Nat
  | .empty | .look _ => stateSize
  | .chars s => setSize backward s
  | .seq parts => max stateSize (sizeSum backward parts)
  | .alt branches =>
    2 * stateSize + branchSize * branches.length + sizeSum backward branches
  | .repetition p least most =>
    repetitionSize (p.size backward) (p.minLength == 0) least most
  | .group p => p.size backward + if backward then 0 else 2 * stateSize

def sizeSum (backward : Bool) : List Pattern → Nat
  | [] => 0
  | p :: rest => p.size backward + sizeSum backward rest

end

def maxSize : Nat := 10485760

/-- What is around every pattern: a start anywhere in the text, an end, and marks. -/
def frameSize (backward : Bool) : Nat := if backward then 5 * stateSize else 7 * stateSize

/-- Whether a pattern is too great in either direction. -/
def isTooBig (p : Pattern) : Bool :=
  [false, true].any fun backward => maxSize < frameSize backward + p.size backward

end Pattern

end Schemata.Text
