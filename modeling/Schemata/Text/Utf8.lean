/-!
# UTF-8

Octets are cut into pieces: a character, or a maximal stretch that no character starts with.
`decode?` refuses any such stretch, `decodeLossy` puts U+FFFD in its place.
-/

namespace Schemata.Text.Utf8

/-- A character that has begun: the bits so far, how many octets are still owed, and the bounds
of the next one. -/
structure Pending where
  bits : Nat
  owed : Nat
  low : Nat := 0x80
  high : Nat := 0xBF
deriving Repr

/-- What an octet can be between characters. -/
inductive Lead where
  | char (c : Char)
  | opens (p : Pending)
  | stray
deriving Repr

/-- The bounds after the first octet rule out overlong forms, surrogates and values past
U+10FFFF. -/
def lead (octet : UInt8) : Lead :=
  let b := octet.toNat
  if b < 0x80 then .char (Char.ofNat b)
  else if b < 0xC2 then .stray
  else if b < 0xE0 then .opens { bits := b - 0xC0, owed := 1 }
  else if b = 0xE0 then .opens { bits := 0, owed := 2, low := 0xA0 }
  else if b = 0xED then .opens { bits := 0xD, owed := 2, high := 0x9F }
  else if b < 0xF0 then .opens { bits := b - 0xE0, owed := 2 }
  else if b = 0xF0 then .opens { bits := 0, owed := 3, low := 0x90 }
  else if b < 0xF4 then .opens { bits := b - 0xF0, owed := 3 }
  else if b = 0xF4 then .opens { bits := 4, owed := 3, high := 0x8F }
  else .stray

/-- The piece that an octet completes between characters. -/
def Lead.piece : Lead → List (Option Char)
  | .char c => [some c]
  | .opens _ => []
  | .stray => [none]

/-- The character that an octet begins between characters. -/
def Lead.pending : Lead → Option Pending
  | .opens p => some p
  | _ => none

/-- The pieces of the octets: `none` stands for a maximal ill-formed stretch. -/
def pieces : Option Pending → List UInt8 → List (Option Char)
  | none, [] => []
  | some _, [] => [none]
  | none, b :: rest => (lead b).piece ++ pieces (lead b).pending rest
  | some p, b :: rest =>
    if p.low ≤ b.toNat && b.toNat ≤ p.high then
      let bits := p.bits * 64 + (b.toNat - 0x80)
      if p.owed ≤ 1 then some (Char.ofNat bits) :: pieces none rest
      else pieces (some { bits, owed := p.owed - 1 }) rest
    else none :: (lead b).piece ++ pieces (lead b).pending rest

/-- The text the octets spell, if they are UTF-8 throughout. -/
def decode? (octets : List UInt8) : Option String :=
  ((pieces none octets).mapM id).map String.ofList

/-- The text the octets spell, with U+FFFD for each ill-formed stretch. -/
def decodeLossy (octets : List UInt8) : String :=
  String.ofList ((pieces none octets).map (·.getD '\uFFFD'))

end Schemata.Text.Utf8
