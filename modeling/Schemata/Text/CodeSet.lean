/-!
# Sets of code points

A `CodeSet` holds ranges of code points in increasing order with gaps between them. Tables are
written as text, a range by its first and last code point in hexadecimal digits: `41-5A`. A step
behind it, as in `100-136/2`, leaves out what lies between the steps. Blanks and line ends part
the ranges.
-/

namespace Schemata.Text

structure CodeSet where
  /-- The first and the last code point of each range. -/
  ranges : List (Nat × Nat)
deriving Repr, BEq

namespace CodeSet

def maxCode : Nat := 0x10FFFF

/-- Whether a code point lies in one of the ranges. -/
def contains (s : CodeSet) (code : Nat) : Bool := go s.ranges
where
  go : List (Nat × Nat) → Bool
    | [] => false
    | (first, last) :: rest => first ≤ code && (code ≤ last || go rest)

/-- Joins ranges, given by increasing starts, that overlap or touch. -/
def joinTouching : List (Nat × Nat) → List (Nat × Nat)
  | [] => []
  | r :: rest => go r rest
where
  go (r : Nat × Nat) : List (Nat × Nat) → List (Nat × Nat)
    | [] => [r]
    | (first, last) :: rest =>
      if first ≤ r.2 + 1 then go (r.1, max r.2 last) rest else r :: go (first, last) rest

/-- The set that ranges in any order cover. -/
def ofRanges (ranges : List (Nat × Nat)) : CodeSet :=
  ⟨joinTouching (ranges.mergeSort fun a b => a.1 ≤ b.1)⟩

def ofRange (first last : Nat) : CodeSet := ⟨[(first, last)]⟩

def ofChar (c : Char) : CodeSet := ofRange c.toNat c.toNat

def empty : CodeSet := ⟨[]⟩

def isEmpty (s : CodeSet) : Bool := s.ranges.isEmpty

/-- Everything else. -/
def compl (s : CodeSet) : CodeSet := ⟨go 0 s.ranges⟩
where
  /-- What lies between the ranges, from a code point on. -/
  go (next : Nat) : List (Nat × Nat) → List (Nat × Nat)
    | [] => if next ≤ maxCode then [(next, maxCode)] else []
    | (first, last) :: rest =>
      if next < first then (next, first - 1) :: go (last + 1) rest else go (last + 1) rest

instance : Union CodeSet := ⟨fun s t => ofRanges (s.ranges ++ t.ranges)⟩

instance : Inter CodeSet := ⟨fun s t => (s.compl ∪ t.compl).compl⟩

instance : SDiff CodeSet := ⟨fun s t => s ∩ t.compl⟩

/-- What is in one of the sets alone. -/
def symmDiff (s t : CodeSet) : CodeSet := (s \ t) ∪ (t \ s)

def unions (sets : List CodeSet) : CodeSet := ofRanges (sets.flatMap (·.ranges))

/-! ## Tables -/

def hexValue (digits : List Char) : Nat :=
  digits.foldl (fun acc c => acc * 16 + (if c.isDigit then c.toNat - 48 else c.toNat - 55)) 0

/-- The ranges that a word of a table stands for. -/
def readWord (word : List Char) : List (Nat × Nat) :=
  let (range, step) := word.span (· != '/')
  let (first, last) := range.span (· != '-')
  let first := hexValue first
  let last := if last.isEmpty then first else hexValue last.tail
  match step with
  | [] => [(first, last)]
  | _ :: digits =>
    let step := hexValue digits
    (List.range ((last - first) / step + 1)).map fun i => (first + i * step, first + i * step)

/-- The words between blanks and line ends. -/
def splitWords (word : List Char) : List Char → List (List Char)
  | [] => if word.isEmpty then [] else [word.reverse]
  | c :: rest =>
    if c == ' ' || c == '\n' then
      if word.isEmpty then splitWords [] rest else word.reverse :: splitWords [] rest
    else splitWords (c :: word) rest

/-- Reads a table. -/
def read (table : String) : CodeSet := ofRanges ((splitWords [] table.toList).flatMap readWord)

end CodeSet

end Schemata.Text
