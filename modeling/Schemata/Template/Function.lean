import Schemata.Template.Filter.Argument

/-!
# Functions of templates
-/

namespace Schemata.Template

/-- A function makes data from arguments. -/
abbrev Function := Fields → Except FunctionFault Data

namespace Function

/-- A bound of a range, if it is given. -/
def bound (name shown : String) (args : Fields) : Except FunctionFault (Option Nat) :=
  match args.get? name with
  | none => .ok none
  | some d =>
    match d.nat64? with
    | some n => .ok (some n)
    | none => .error (.notABound name shown d)

/-- The numbers from `start` below `stop`, `step` apart. -/
def range : Function := fun args => do
  let start := (← bound "start" "start" args).getD 0
  let step := (← bound "step_by" "step" args).getD 1
  match ← bound "end" "end" args with
  | none => throw .noEnd
  | some stop =>
    if stop < start then throw .reversedRange
    let count := if step = 0 then 0 else (stop - start + step - 1) / step
    return .list ((List.range count).map fun i => .number (.int (start + i * step : Nat)))

def throwMessage : Function := fun args =>
  match args.get? "message" with
  | none => .error .noMessage
  | some (.string s) => .error (.thrown s)
  | some d => .error (.messageNotText d)

/-- The function of a name. -/
def named? (name : String) : Option Function :=
  [("range", range), ("throw", throwMessage)].lookup name

end Function

end Schemata.Template
