import Schemata.Number

/-!
# Document values

A `Value` is what a document says once its anchors are resolved: scalars, sequences, mappings in
document order, and values under a local tag.

Two keys name the same entry when their codes agree (`Value.same`). The code lists the entries of
a mapping in sorted order, so their order does not tell two mappings apart; nor does the sign of a
zero tell two floats apart.
-/

namespace Schemata.Yaml

inductive Value where
  | null
  | bool (value : Bool)
  | number (value : Number)
  | string (value : String)
  | seq (items : List Value)
  | map (entries : List (Value × Value))
  /-- The tag is written without its leading exclamation mark. -/
  | tagged (tag : String) (value : Value)
deriving Repr, Inhabited

/-- The shapes of values. -/
inductive Kind where
  | null | bool | number | string | seq | map | tagged
deriving DecidableEq, Repr, Inhabited

def Kind.describe : Kind → String
  | .null => "null"
  | .bool => "a boolean"
  | .number => "a number"
  | .string => "a string"
  | .seq => "a sequence"
  | .map => "a mapping"
  | .tagged => "a tagged value"

namespace Value

def kind : Value → Kind
  | .null => .null
  | .bool _ => .bool
  | .number _ => .number
  | .string _ => .string
  | .seq _ => .seq
  | .map _ => .map
  | .tagged .. => .tagged

/-- The value below any tags. -/
def untagged : Value → Value
  | .tagged _ v => v.untagged
  | v => v

/-- The text of a string, seen through tags. -/
def text? (v : Value) : Option String :=
  match v.untagged with
  | .string s => some s
  | _ => none

/-! ## Identity of keys -/

def codeText (s : String) : List Nat := s.length :: s.toList.map Char.toNat

def codeInt (i : Int) : List Nat := [if i < 0 then 1 else 0, i.natAbs]

/-- All NaNs are one key, and so are the zeros. -/
def codeFloat (d : Double) : Nat :=
  if d.isNaN then Double.nan.bits.toNat else if d.isZero then 0 else d.bits.toNat

/-- Whether one code comes before another: by the first number that differs. -/
def codeLe : List Nat → List Nat → Bool
  | [], _ => true
  | _ :: _, [] => false
  | a :: as, b :: bs => a < b || (a == b && codeLe as bs)

/-- Puts a code in its place among sorted codes. -/
def insertCode (c : List Nat) : List (List Nat) → List (List Nat)
  | [] => [c]
  | d :: ds => if codeLe c d then c :: d :: ds else d :: insertCode c ds

mutual

/-- A list of numbers that tells a key from every other. -/
def code : Value → List Nat
  | .null => [0]
  | .bool b => [1, b.toNat]
  | .number (.int i) => 2 :: codeInt i
  | .number (.float d) => [3, codeFloat d]
  | .string s => 4 :: codeText s
  | .seq items => 5 :: items.length :: codeItems items
  | .map entries => 6 :: entries.length :: (codeEntries entries).flatten
  | .tagged tag v => 7 :: (codeText tag ++ v.code)

/-- The codes of the items, one after another. -/
def codeItems : List Value → List Nat
  | [] => []
  | v :: rest => v.code ++ codeItems rest

/-- The codes of the entries, sorted. -/
def codeEntries : List (Value × Value) → List (List Nat)
  | [] => []
  | (k, v) :: rest => insertCode (k.code ++ v.code) (codeEntries rest)

end

/-- Whether two values are the same key. -/
def same (a b : Value) : Bool := a.code == b.code

end Value

/-! ## Entries of a mapping -/

namespace Entries

def lookup (entries : List (Value × Value)) (key : Value) : Option Value :=
  (entries.find? fun e => e.1.same key).map (·.2)

/-- The key, as it is written there, of the entry that a key names. -/
def key? (entries : List (Value × Value)) (key : Value) : Option Value :=
  (entries.find? fun e => e.1.same key).map (·.1)

def contains (entries : List (Value × Value)) (key : Value) : Bool :=
  entries.any fun e => e.1.same key

/-- Sets the value of a key: in place when the key is there, else at the end. -/
def insert : List (Value × Value) → Value → Value → List (Value × Value)
  | [], key, value => [(key, value)]
  | (k, v) :: rest, key, value =>
    if k.same key then (k, value) :: rest else (k, v) :: insert rest key value

end Entries

end Schemata.Yaml
