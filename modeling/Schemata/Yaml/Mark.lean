/-!
# Positions in a document
-/

namespace Schemata.Yaml

/-- A position: octets of UTF-8 before it, lines before it, and characters before it on its
line. -/
structure Mark where
  index : Nat := 0
  line : Nat := 0
  column : Nat := 0
deriving DecidableEq, Repr, Inhabited

namespace Mark

def isOrigin (m : Mark) : Bool := m.line == 0 && m.column == 0

/-- Lines and columns are counted from one in messages. -/
def describe (m : Mark) : String :=
  s!"line {m.line + 1} column {m.column + 1}"

/-- The position after a character that ends no line. -/
def past (m : Mark) (c : Char) : Mark :=
  { m with index := m.index + c.utf8Size, column := m.column + 1 }

/-- The position after a line break of `size` octets. -/
def pastBreak (m : Mark) (size : Nat) : Mark :=
  { index := m.index + size, line := m.line + 1, column := 0 }

end Mark

end Schemata.Yaml
