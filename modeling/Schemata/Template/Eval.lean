import Schemata.Template.Arith
import Schemata.Template.Filter
import Schemata.Template.Function
import Schemata.Template.Scope
import Schemata.Template.Test

/-!
# Values of expressions

`evalExpr` gives the value of an expression and `evalBool` its truth as a condition. The two
differ: a condition that is an undefined variable does not hold, and a condition that is a
literal or a call is judged without the filters behind it; those behind a concatenation count.

An evaluation is an action, as it may call a macro; the macro's frame stays open where a condition
recovers from a fault in it.
-/

namespace Schemata.Template

open Template.Action

/-- Arguments with the evaluation of their values. -/
abbrev Arguments := List (String × Action Data)

/-- Where an expression is evaluated. -/
structure Site where
  env : Env
  /-- Renders a body afresh: one that no node at hand holds. -/
  renderBody : List Node → Action Unit

/-- The values of arguments. -/
def Arguments.values (args : Arguments) : Action Fields := do
  return Fields.ofList (← args.mapM fun (name, value) => do return (name, ← value))

namespace Site

def valueAt (s : Site) (path : String) : Action Data := do
  settled (s.env.valueAt (← get).frames path)

def callFunction (name : String) (args : Arguments) : Action Data :=
  match Function.named? name with
  | none => fail (.unknownFunction name)
  | some f => wrapped (.functionCall name) do settled ((f (← args.values)).mapError .function)

def callFilter (s : Site) (name : String) (d : Data) (args : Arguments) : Action Data :=
  match Filter.named? s.env.types name with
  | none => fail (.unknownFilter name)
  | some f => wrapped (.filterCall name) do settled ((f d (← args.values)).mapError .filter)

def runTest (s : Site) (negated : Bool) (path name : String) (params : List (Action Data)) :
    Action Bool :=
  match Test.named? name with
  | none => fail (.unknownTest name)
  | some test =>
    wrapped (.testCall name) do
      let params ← params.mapM id
      let value ← attempt (s.valueAt path)
      return (← settled ((test value.toOption params).mapError .test)) != negated

/-! ## Macros -/

/-- The macro that a call names. -/
def macro? (s : Site) (file name : String) : Except Fault Macro :=
  let t := s.env.template
  if (file == "self" && !t.macros.isEmpty) || t.imports.contains file then
    match t.macros.lookup name with
    | some m => .ok m
    | none => .error (.unknownMacro file name t.name)
  else .error (.unknownMacroFile file t.name)

/-- The variables of a macro: what the call gives, or else the value of the parameter. Of two
parameters of one name the last counts. -/
def bindParams (name : String) (args : Arguments) : List Param → Action Fields
  | [] => return []
  | p :: rest => do
    if rest.any (·.name == p.name) then bindParams name args rest
    else
      let d ← match args.lookup p.name, p.value with
        | some value, _ => value
        | none, some d => pure d
        | none, none => fail (.missingMacroArgument name p.name)
      return (p.name, d) :: (← bindParams name args rest)

/-- What a macro writes. -/
def callMacro (s : Site) (file name : String) (args : Arguments) : Action String :=
  captured do
    let m ← settled (s.macro? file name)
    let vars ← bindParams name args m.params
    inFrame { opening := .call file name, vars } (s.renderBody m.body)

end Site

/-! ## Operations -/

/-- Whether an item is in a container. -/
def isMember (negated : Bool) (item container : Data) : Except Fault Bool :=
  match container, item with
  | .list items, d => .ok ((items.any d.same) != negated)
  | .string s, .string part => .ok (Text.contains s part != negated)
  | .string _, d => .error (.notInText d)
  | .object entries, .string name => .ok ((entries.lookup name).isSome != negated)
  | .object _, d => .error (.notInObject d)
  | _, _ => .error .notAContainer

/-- Equality of values: numbers are equal as doubles, and a number differs from anything else. -/
def equals (l r : Data) : Option Bool :=
  match l, r with
  | .number m, .number n => some (m.toDouble.numEq n.toDouble)
  | .number _, _ | _, .number _ => none
  | l, r => some (l.same r)

/-- Whether a relation holds, or does not if it is negated. A number is neither equal nor unequal
to what is no number, and a `not` changes nothing about that. -/
def relate (negated : Bool) (op : Relation) (lhs rhs : Action (Option Number))
    (lhsValue rhsValue : Action Data) : Action Bool :=
  match op with
  | .eq => do return (equals (← lhsValue) (← rhsValue)).any (· != negated)
  | .ne => do return (equals (← lhsValue) (← rhsValue)).any (· == negated)
  | op => do
    match ← lhs, ← rhs with
    | some m, some n => return op.holds m n != negated
    | _, _ => fail (.arith .incomparable)

/-- Joins two conditions; the second is looked at only if it decides. -/
def connect (op : Connective) (lhs rhs : Action Bool) : Action Bool := do
  match op, ← lhs with
  | .or, true => return true
  | .and, false => return false
  | _, _ => rhs

/-- The result of an operation on the values of its operands, if both are numbers. -/
def operate (op : ArithOp) (lhs rhs : Expr) (l r : Option Number) :
    Except Fault (Option Number) :=
  match l, r with
  | some l, some r => (op.apply lhs rhs l r).mapError .arith
  | _, _ => .ok none

/-- A number that a call or a variable gave. -/
def asNumber (fault : ArithFault) : Data → Except Fault (Option Number)
  | .number n => .ok (some n)
  | _ => .error (.arith fault)

/-- The value of an arithmetic term. -/
def ofArith (result : Action (Option Number)) : Action Data := do
  match ← wrapped .inArith result with
  | some n => return .number n
  | none => return .string "NaN"

/-- The text of a part of a concatenation. -/
def partText (fault : Fault) : Data → Except Fault String
  | .string s => .ok s
  | .number n => .ok (n.write .data)
  | _ => .error fault

/-- How a concatenation is shown in messages. -/
def showParts (parts : List Term) : String :=
  " ~ ".intercalate (parts.map fun
    | .text s => "'" ++ s ++ "'"
    | .path p => p
    | _ => "unknown")

/-- The value of a term: settled, or one that filters and a `not` still work on. -/
inductive Base where
  | settled (d : Data)
  | open (d : Data)

/-- The value of a variable. Where it has none, or null, the fallback counts; `not` of an
undefined variable is true. -/
def ofVariable (value : Action Data) (negated : Bool) (fallback : Option (Action Data)) :
    Action Base := do
  match ← attempt value, fallback with
  | .ok .null, some fallback | .error _, some fallback => .open <$> fallback
  | .ok d, _ => return .open d
  | .error e, none => if negated then return .settled (.bool true) else fail e

/-- Sends a value that is not settled through filters and maybe a `not`. -/
def settle (negated : Bool) (base : Action Base) (filters : Data → Action Data) :
    Action Data := do
  match ← base with
  | .settled d => return d
  | .open d =>
    let d ← filters d
    return if negated then .bool !d.isTruthy else d

/-- Filters that are no calls. -/
def isMarker (filter : String) : Bool := filter == "safe" || filter == "default"

/-! ## Evaluation -/

mutual

def evalExpr (s : Site) : Expr → Action Data
  | .mk t negated filters =>
    settle negated (evalTerm s negated (evalFallback s filters) t) (applyFilters s filters)

/-- The value of a term in front of its filters. -/
def evalTerm (s : Site) (negated : Bool) (fallback : Option (Action Data)) : Term → Action Base
  | .text v => return .open (.string v)
  | .int i => return .open (.number (.int i))
  | .float d => return .open (.number (.float d))
  | .bool b => return .open (.bool b)
  | .path p => ofVariable (s.valueAt p) negated fallback
  | .arith op l r => .open <$> ofArith do
    settled (operate op l r (← evalNumber s l) (← evalNumber s r))
  | .relation op l r =>
    (.open ∘ .bool) <$>
      relate negated op (evalNumber s l) (evalNumber s r) (evalExpr s l) (evalExpr s r)
  | .connective op l r => do
    let holds ← connect op (evalBool s l) (evalBool s r)
    return .open (.bool (holds != negated))
  | .membership no item container => do
    let item ← evalExpr s item
    return .open (.bool (← settled (isMember no item (← evalExpr s container))))
  | .test no path name args => do
    return .open (.bool (← s.runTest no path name (evalExprs s args)))
  | .call (.mk name args) => .open <$> Site.callFunction name (evalArgs s args)
  | .macroCall file (.mk name args) =>
    (.open ∘ .string) <$> s.callMacro file name (evalArgs s args)
  | .list items => do return .open (.list (← (evalExprs s items).mapM id))
  | .concat parts => (.open ∘ .string ∘ String.join) <$> evalParts s parts

/-- Whether an expression holds as a condition. -/
def evalBool (s : Site) : Expr → Action Bool
  | .mk (.path p) negated filters => do
    match ← attempt (settle negated (ofVariable (s.valueAt p) negated (evalFallback s filters))
        (applyFilters s filters)) with
    | .ok d => return d.isTruthy
    | .error _ => return false
  | .mk (.relation op l r) negated _ =>
    relate negated op (evalNumber s l) (evalNumber s r) (evalExpr s l) (evalExpr s r)
  | .mk (.concat parts) negated filters => do
    let d ← applyFilters s filters (.string (String.join (← evalParts s parts)))
    return d.isTruthy != negated
  | .mk t negated _ => (· != negated) <$> evalTruth s t

/-- Whether a term holds as a condition. -/
def evalTruth (s : Site) : Term → Action Bool
  | .text v => return !v.isEmpty
  | .int i => return i != 0
  | .float d => return !d.isZero
  | .bool b => return b
  | .path p => do return (← attempt (s.valueAt p)).toOption.any Data.isTruthy
  | .arith op l r => do
    let result ← settled (operate op l r (← evalNumber s l) (← evalNumber s r))
    return result.any fun n => !n.toDouble.isZero
  | .relation op l r =>
    relate false op (evalNumber s l) (evalNumber s r) (evalExpr s l) (evalExpr s r)
  | .connective op l r => connect op (evalBool s l) (evalBool s r)
  | .membership no item container => do
    let item ← evalExpr s item
    settled (isMember no item (← evalExpr s container))
  | .test no path name args => s.runTest no path name (evalExprs s args)
  | .call (.mk name args) => do
    match ← Site.callFunction name (evalArgs s args) with
    | .bool b => return b
    | _ => fail (.callNotBool name)
  | .macroCall file (.mk name args) => do
    return !(← s.callMacro file name (evalArgs s args)).isEmpty
  | .list items => do return !(← (evalExprs s items).mapM id).isEmpty
  | .concat parts => do return !(String.join (← evalParts s parts)).isEmpty

/-- The number that an expression gives, if it is a finite one. -/
def evalNumber (s : Site) : Expr → Action (Option Number)
  | .mk t _ [] => evalNumberTerm s t
  | .mk t negated (f :: filters) => do
    settled (asNumber .filteredNotNumber
      (← settle negated (evalTerm s negated (evalFallback s (f :: filters)) t)
        (applyFilters s (f :: filters))))

def evalNumberTerm (s : Site) : Term → Action (Option Number)
  | .int i => return some (.int i)
  | .float d => return some (.float d)
  | .path p => do settled (asNumber (.notNumber p) (← s.valueAt p))
  | .arith op l r => do settled (operate op l r (← evalNumber s l) (← evalNumber s r))
  | .call (.mk name args) => do
    settled (asNumber (.callNotNumber name) (← Site.callFunction name (evalArgs s args)))
  | .text v => fail (.arith (.text v))
  | .bool b => fail (.arith (.bool b))
  | .concat parts => fail (.arith (.concat (showParts parts)))
  | .test _ _ name _ => fail (.arith (.test name))
  | _ => fail (.arith .notATerm)

/-- The evaluation of what `default` gives, if it is the first filter. -/
def evalFallback (s : Site) : List Call → Option (Action Data)
  | .mk name args :: _ =>
    if name == "default" then some (((evalArgs s args).lookup "value").getD (fail .noFallback))
    else none
  | [] => none

/-- Sends data through filters. -/
def applyFilters (s : Site) : List Call → Data → Action Data
  | [], d => return d
  | .mk name args :: rest, d =>
    if isMarker name then applyFilters s rest d
    else do applyFilters s rest (← s.callFilter name d (evalArgs s args))

def evalArgs (s : Site) : List (String × Expr) → Arguments
  | [] => []
  | (name, e) :: rest =>
    if isRepeated name rest then evalArgs s rest else (name, evalExpr s e) :: evalArgs s rest

def evalExprs (s : Site) : List Expr → List (Action Data)
  | [] => []
  | e :: rest => evalExpr s e :: evalExprs s rest

/-- The texts of the parts of a concatenation. -/
def evalParts (s : Site) : List Term → Action (List String)
  | [] => return []
  | .text v :: rest => (v :: ·) <$> evalParts s rest
  | .int i :: rest => (toString i :: ·) <$> evalParts s rest
  | .float d :: rest => (d.write .printed :: ·) <$> evalParts s rest
  | .path p :: rest => do
    let text ← settled (partText (.pathNotText p) (← s.valueAt p))
    return text :: (← evalParts s rest)
  | .call (.mk name args) :: rest => do
    let text ← settled
      (partText (.callNotText name) (← Site.callFunction name (evalArgs s args)))
    return text :: (← evalParts s rest)
  | _ :: rest => evalParts s rest

end

end Schemata.Template
