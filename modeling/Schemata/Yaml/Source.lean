import Schemata.Yaml.Error

/-!
# The characters of a document

A document is UTF-8 throughout and holds no control characters. All of it is checked before any of
it is scanned, so that a fault of a character is told before any other. A reader that takes octets
in as the scanner asks for them, 16384 at a time, agrees on which documents are read and on the
fault of those that are shorter; of a longer one it tells what the scanner finds in front of the
piece with the bad character, if it finds anything there.
-/

namespace Schemata.Yaml.Source

/-- The characters a document may hold. -/
def allowed (code : Nat) : Bool :=
  code == 0x09 || code == 0x0A || code == 0x0D || (0x20 ≤ code && code ≤ 0x7E) ||
  code == 0x85 || (0xA0 ≤ code && code ≤ 0xD7FF) || (0xE000 ≤ code && code ≤ 0xFFFD) ||
  (0x10000 ≤ code && code ≤ 0x10FFFF)

/-- The number of octets in the sequence that an octet leads, or zero. -/
def width (octet : UInt8) : Nat :=
  let b := octet.toNat
  if b < 0x80 then 1 else if b < 0xC0 then 0 else if b < 0xE0 then 2
  else if b < 0xF0 then 3 else if b < 0xF8 then 4 else 0

def isTrail (octet : UInt8) : Bool := 0x80 ≤ octet.toNat && octet.toNat < 0xC0

/-- The value of an octet sequence of the given width. -/
def value (width : Nat) (lead : UInt8) (trail : List UInt8) : Nat :=
  let first := if width = 1 then lead.toNat else lead.toNat % twoTo (7 - width)
  trail.foldl (fun acc b => acc * 64 + b.toNat % 64) first

/-- The least value that needs a sequence of the given width. -/
def least : Nat → Nat
  | 2 => 0x80
  | 3 => 0x800
  | 4 => 0x10000
  | _ => 0

/-- Checks the value of the sequence at an offset. -/
def character (offset width value : Nat) : Except Error Char :=
  if value < least width then .error (.unreadable .overlong offset)
  else if (0xD800 ≤ value && value ≤ 0xDFFF) || 0x10FFFF < value then
    .error (.unreadable .noCharacter offset)
  else if allowed value then .ok (Char.ofNat value)
  else .error (.unreadable .control offset)

/-- The characters of the octets from an offset on. `skip` octets at the front belong to the
character before. -/
def readFrom (offset : Nat) : Nat → List UInt8 → Except Error (List Char)
  | _, [] => .ok []
  | skip + 1, _ :: rest => readFrom (offset + 1) skip rest
  | 0, lead :: rest =>
    let width := width lead
    let trail := rest.take (width - 1)
    if width = 0 then .error (.unreadable .strayLead offset)
    else if trail.length + 1 < width then .error (.unreadable .incomplete offset)
    else
      match trail.findIdx? (!isTrail ·) with
      | some i => .error (.unreadable .strayTrail (offset + i + 1))
      | none => do
        let c ← character offset width (value width lead trail)
        return c :: (← readFrom (offset + 1) (width - 1) rest)

def read (octets : List UInt8) : Except Error (List Char) := readFrom 0 0 octets

end Schemata.Yaml.Source
