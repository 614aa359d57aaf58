import Schemata.Text.CodeSet
import Schemata.Text.Letter

/-!
# Case folds

Two characters are one but for their case if they fold to one character. `CodeSet.closeCase` adds
to a set whatever differs from a member in case only.
-/

namespace Schemata.Text

/-- Small letters that fold to others. -/
def specialFolds : List (Nat × Nat) :=
  [(0xB5, 0x3BC), (0x17F, 0x73), (0x345, 0x3B9), (0x3C2, 0x3C3), (0x3D0, 0x3B2), (0x3D1, 0x3B8),
    (0x3D5, 0x3C6), (0x3D6, 0x3C0), (0x3F0, 0x3BA), (0x3F1, 0x3C1), (0x3F5, 0x3B5),
    (0x1C80, 0x432), (0x1C81, 0x434), (0x1C82, 0x43E), (0x1C83, 0x441), (0x1C84, 0x442),
    (0x1C85, 0x442), (0x1C86, 0x44A), (0x1C87, 0x463), (0x1C88, 0xA64B), (0x1E9B, 0x1E61),
    (0x1FBE, 0x3B9), (0x1FD3, 0x390), (0x1FE3, 0x3B0), (0xFB05, 0xFB06)]

/-- The characters that fold to others, with what they fold to. -/
def caseFolds : List (Nat × Nat) :=
  (List.range 26).map (fun i => (0x41 + i, 0x61 + i)) ++ specialFolds ++
    lowerRuns.flatMap fun (first, last, step, distance) =>
      (List.range ((last - first) / step + 1)).map fun i =>
        (first + i * step, (first + i * step + distance).toNat)

namespace CodeSet

/-- Adds what a list of folds makes of the members, and then what it makes into members. -/
def closeUnder (folds : List (Nat × Nat)) (s : CodeSet) : CodeSet :=
  let one (code : Nat) : Nat × Nat := (code, code)
  let folded := s ∪ .ofRanges ((folds.filter (s.contains ·.1)).map (one ·.2))
  folded ∪ .ofRanges ((folds.filter (folded.contains ·.2)).map (one ·.1))

def closeCase (s : CodeSet) : CodeSet := s.closeUnder caseFolds

/-- Adds what differs from a member in case only, within ASCII. -/
def closeAsciiCase (s : CodeSet) : CodeSet :=
  s.closeUnder ((List.range 26).map fun i => (0x41 + i, 0x61 + i))

end CodeSet

end Schemata.Text
