import Schemata.Number
import Schemata.Text.Quoted

/-!
# Expressions of templates

An `Expr` is a term with the filters its value passes through, and maybe a `not` in front.
`Expr.tree` names the constructors of an expression, as messages about loops and remainders do.
-/

namespace Schemata.Template

inductive ArithOp where
  | add | sub | mul | div | rem
deriving DecidableEq, Repr

inductive Relation where
  | lt | le | gt | ge | eq | ne
deriving DecidableEq, Repr

inductive Connective where
  | and | or
deriving DecidableEq, Repr

mutual

/-- A term, whether `not` stands in front, and the filters behind it. -/
inductive Expr where
  | mk (term : Term) (negated : Bool) (filters : List Call)

inductive Term where
  | text (value : String)
  | int (value : Int)
  | float (value : Double)
  | bool (value : Bool)
  /-- A variable with the steps into its value, as written. -/
  | path (written : String)
  | arith (op : ArithOp) (lhs rhs : Expr)
  | relation (op : Relation) (lhs rhs : Expr)
  | connective (op : Connective) (lhs rhs : Expr)
  | membership (negated : Bool) (item container : Expr)
  | test (negated : Bool) (path name : String) (args : List Expr)
  | call (call : Call)
  /-- A call of a macro, under the name of the file it comes from. -/
  | macroCall (file : String) (call : Call)
  | list (items : List Expr)
  /-- The texts of several terms, one behind the other. -/
  | concat (parts : List Term)

/-- A name with named arguments. Of two arguments of one name the last counts. -/
inductive Call where
  | mk (name : String) (args : List (String × Expr))

end

/-- Whether an argument of that name follows. -/
def isRepeated (name : String) (later : List (String × α)) : Bool := later.any (·.1 == name)

namespace Call

def name : Call → String
  | .mk name _ => name

end Call

namespace Expr

def term : Expr → Term
  | .mk term _ _ => term

/-- A term alone. -/
def ofTerm (t : Term) : Expr := .mk t false []

def withNegated (negated : Bool) : Expr → Expr
  | .mk term _ filters => .mk term negated filters

end Expr

/-! ## Constructor trees -/

def ArithOp.tree : ArithOp → String
  | .add => "Add"
  | .sub => "Sub"
  | .mul => "Mul"
  | .div => "Div"
  | .rem => "Modulo"

def Relation.tree : Relation → String
  | .lt => "Lt"
  | .le => "Lte"
  | .gt => "Gt"
  | .ge => "Gte"
  | .eq => "Eq"
  | .ne => "NotEq"

def Connective.tree : Connective → String
  | .and => "And"
  | .or => "Or"

/-- The form of floats in constructor trees. -/
def treeForm : Double.WrittenForm :=
  { Double.WrittenForm.document with
    positional := some (-4, 16), nan := "NaN", infinity := "inf", negInfinity := "-inf" }

/-- A constructor with named fields. -/
def treeFields (name : String) (fields : List (String × String)) : String :=
  name ++ " \x7b " ++ ", ".intercalate (fields.map fun f => f.1 ++ ": " ++ f.2) ++ " \x7d"

def treeList (parts : List String) : String := "[" ++ ", ".intercalate parts ++ "]"

def treeBinary (name op lhs rhs : String) : String :=
  treeFields name [("lhs", lhs), ("rhs", rhs), ("operator", op)]

mutual

def Expr.tree : Expr → String
  | .mk term negated filters =>
    treeFields "Expr" [("val", term.tree), ("negated", toString negated),
      ("filters", treeList (treeCalls filters))]

def Term.tree : Term → String
  | .text s => "String(" ++ Text.quoted s ++ ")"
  | .int i => s!"Int({i})"
  | .float d => "Float(" ++ d.write treeForm ++ ")"
  | .bool b => s!"Bool({b})"
  | .path p => "Ident(" ++ Text.quoted p ++ ")"
  | .arith op l r => "Math(" ++ treeBinary "MathExpr" op.tree l.tree r.tree ++ ")"
  | .relation op l r => "Logic(" ++ treeBinary "LogicExpr" op.tree l.tree r.tree ++ ")"
  | .connective op l r => "Logic(" ++ treeBinary "LogicExpr" op.tree l.tree r.tree ++ ")"
  | .membership negated item container =>
    "In(" ++ treeFields "In" [("lhs", item.tree), ("rhs", container.tree),
      ("negated", toString negated)] ++ ")"
  | .test negated path name args =>
    "Test(" ++ treeFields "Test" [("ident", Text.quoted path), ("negated", toString negated),
      ("name", Text.quoted name), ("args", treeList (treeExprs args))] ++ ")"
  | .call c => "FunctionCall(" ++ c.tree ++ ")"
  | .macroCall file (.mk name args) =>
    "MacroCall(" ++ treeFields "MacroCall" [("namespace", Text.quoted file),
      ("name", Text.quoted name), ("args", treeArgs args)] ++ ")"
  | .list items => "Array(" ++ treeList (treeExprs items) ++ ")"
  | .concat parts =>
    "StringConcat(" ++ treeFields "StringConcat" [("values", treeList (treeTerms parts))] ++ ")"

def Call.tree : Call → String
  | .mk name args =>
    treeFields "FunctionCall" [("name", Text.quoted name), ("args", treeArgs args)]

def treeCalls : List Call → List String
  | [] => []
  | c :: rest => c.tree :: treeCalls rest

def treeExprs : List Expr → List String
  | [] => []
  | e :: rest => e.tree :: treeExprs rest

def treeTerms : List Term → List String
  | [] => []
  | t :: rest => t.tree :: treeTerms rest

def treeNamed : List (String × Expr) → List String
  | [] => []
  | (name, e) :: rest =>
    if isRepeated name rest then treeNamed rest
    else (Text.quoted name ++ ": " ++ e.tree) :: treeNamed rest

def treeArgs (args : List (String × Expr)) : String :=
  "\x7b" ++ ", ".intercalate (treeNamed args) ++ "\x7d"

end

end Schemata.Template
