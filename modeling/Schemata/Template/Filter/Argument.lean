import Schemata.Data.Access
import Schemata.Template.Fault

/-!
# Arguments of filters

A filter takes a value and named arguments. The readers here ask a piece of data to have a shape
and name the filter in the fault if it does not.
-/

namespace Schemata

namespace Data

def string? : Data → Option String
  | .string s => some s
  | _ => none

def bool? : Data → Option Bool
  | .bool b => some b
  | _ => none

def items? : Data → Option (List Data)
  | .list items => some items
  | _ => none

def number? : Data → Option Number
  | .number n => some n
  | _ => none

def double? (d : Data) : Option Double := d.number?.map Number.toDouble

/-- An integer within a range. -/
def int? (range : IntRange) : Data → Option Int
  | .number (.int i) => if range.holds i then some i else none
  | _ => none

def int64? : Data → Option Int := int? .int64

def int32? : Data → Option Int := int? .int32

def nat64? (d : Data) : Option Nat := (int? .nat64 d).map Int.toNat

def nat32? (d : Data) : Option Nat := (int? .nat32 d).map Int.toNat

end Data

namespace Template

/-- A filter makes data from a value and arguments. -/
abbrev Filter := Data → Fields → Except FilterFault Data

namespace Filter

/-- Asks the value of a filter for a shape. -/
def value (filter : String) (shape : Shape) (read? : Data → Option α) (d : Data) :
    Except FilterFault α :=
  match read? d with
  | some a => .ok a
  | none => .error (.value filter d shape)

/-- An argument that may be missing. -/
def optional (filter name : String) (shape : Shape) (read? : Data → Option α) (args : Fields) :
    Except FilterFault (Option α) :=
  match args.get? name with
  | none => .ok none
  | some d =>
    match read? d with
    | some a => .ok (some a)
    | none => .error (.argument filter name d shape)

/-- An argument with a value for where it is missing. -/
def withDefault (filter name : String) (shape : Shape) (read? : Data → Option α) (args : Fields)
    (default : α) : Except FilterFault α :=
  (·.getD default) <$> optional filter name shape read? args

/-- A string argument that has to be there. -/
def expected (filter name : String) (args : Fields) : Except FilterFault String := do
  match ← optional filter name .string Data.string? args with
  | some s => return s
  | none => throw (.expectedArgument filter name)

def ofInt (i : Int) : Data := .number (.int i)

/-- A double as data: null if it is not finite. -/
def ofDouble (d : Double) : Data := Data.ofNumber (.float d)

end Filter

end Template

end Schemata
