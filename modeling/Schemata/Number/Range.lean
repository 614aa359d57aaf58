/-!
# Powers and ranges

Powers of two and ten, and the ranges of integers of a width.
-/

namespace Schemata

def twoTo (n : Nat) : Nat := Nat.pow 2 n

def tenTo (n : Nat) : Nat := Nat.pow 10 n

/-- A range of integers, both ends included. -/
structure IntRange where
  low : Int
  high : Int
deriving DecidableEq, Repr, Inhabited

namespace IntRange

/-- Signed integers of thirty-two bits. -/
def int32 : IntRange := ⟨-0x80000000, 0x7FFFFFFF⟩

/-- Natural numbers of thirty-two bits. -/
def nat32 : IntRange := ⟨0, 0xFFFFFFFF⟩

/-- Signed integers of sixty-four bits. -/
def int64 : IntRange := ⟨-0x8000000000000000, 0x7FFFFFFFFFFFFFFF⟩

/-- Natural numbers of sixty-four bits. -/
def nat64 : IntRange := ⟨0, 0xFFFFFFFFFFFFFFFF⟩

/-- Signed integers of a hundred and twenty-eight bits. -/
def int128 : IntRange :=
  ⟨-0x80000000000000000000000000000000, 0x7FFFFFFFFFFFFFFFFFFFFFFFFFFFFFFF⟩

/-- Natural numbers of a hundred and twenty-eight bits. -/
def nat128 : IntRange := ⟨0, 0xFFFFFFFFFFFFFFFFFFFFFFFFFFFFFFFF⟩

def holds (r : IntRange) (i : Int) : Bool := r.low ≤ i && i ≤ r.high

/-- The integer of the range that is nearest. -/
def clamp (r : IntRange) (i : Int) : Int :=
  if i < r.low then r.low else if r.high < i then r.high else i

theorem holds_clamp {r : IntRange} (h : r.low ≤ r.high) (i : Int) : r.holds (r.clamp i) := by
  unfold clamp holds
  split
  · simp [h]
  · split
    · simp [h]
    · simp
      omega

theorem clamp_of_holds {r : IntRange} {i : Int} (h : r.holds i) : r.clamp i = i := by
  simp only [holds, Bool.and_eq_true, decide_eq_true_eq] at h
  unfold clamp
  split
  · omega
  · split <;> omega

end IntRange

end Schemata
