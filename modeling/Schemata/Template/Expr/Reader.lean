import Schemata.Template.Expr
import Schemata.Template.Reader

/-!
# Reading expressions

`Expr.reader` reads a condition: comparisons and memberships joined by `and` and `or`, over sums
and products of terms. Of alternatives the first that can be read counts, and no later fault
brings back another one.
-/

namespace Schemata.Template

open Reader

/-! ## Literals -/

def isWordChar (c : Char) : Bool := c.isAlphanum || c == '_'

def identifier : Reader String := do
  let c ← char fun c => c.isAlpha || c == '_'
  return String.ofList (c :: (← span isWordChar))

/-- Digits without a leading zero, maybe negative. -/
def numeral : Reader Unit := do
  discard (optional (lit "-"))
  lit "0" <|> do
    discard (char fun c => c.isDigit && c != '0')
    discard (span Char.isDigit)

def natOf (digits : List Char) : Nat :=
  digits.foldl (fun acc c => acc * 10 + (c.toNat - '0'.toNat)) 0

def intOf (text : List Char) : Int :=
  match text with
  | '-' :: digits => -(natOf digits : Int)
  | digits => natOf digits

def intLiteral : Reader Int := do return intOf (← taken numeral).toList

def floatLiteral : Reader Double := do
  let whole ← taken numeral
  lit "."
  let digits ← span1 Char.isDigit
  let all := whole.toList.filter (· != '-') ++ digits
  return Double.ofDecimal (whole.toList.head? == some '-') (natOf all) (-digits.length)

def quotedBy (q : Char) : Reader String := do
  discard (char (· == q))
  let text ← span (· != q)
  discard (char (· == q))
  return String.ofList text

/-- A string between one of the three quotes. Nothing is escaped in it. -/
def stringLiteral : Reader String := quotedBy '"' <|> quotedBy '\'' <|> quotedBy '\x60'

def boolLiteral : Reader Bool :=
  ((lit "true" <|> lit "True") *> pure true) <|> ((lit "false" <|> lit "False") *> pure false)

/-! ## Paths -/

/-- A step that a point leads to. -/
def pointStep : Reader Unit := do
  lit "."
  discard (span1 isWordChar)

/-- A step in brackets: a number, a string or a path. -/
def bracketStep (path : Reader Unit) : Reader Unit := do
  lit "["
  numeral <|> discard stringLiteral <|> path
  lit "]"

/-- A path whose brackets are nested less deep than the bound. -/
def pathWithin : Nat → Reader Unit
  | 0 => failure
  | depth + 1 => do
    discard identifier
    discard (many (pointStep <|> bracketStep (pathWithin depth)))

/-- A variable with steps into its value. -/
def path : Reader String := taken fun cs => pathWithin (cs.length + 1) cs

/-! ## Calls, filters and tests

`nested` reads a whole condition inside brackets. -/

/-- Reads `( … )` around something that may be missing. -/
def bracketed (p : Reader (List α)) : Reader (List α) := do
  lit "("
  ws
  let found ← optional p
  ws
  lit ")"
  return found.getD []

def comma : Reader Unit := do ws; lit ","; ws

/-- A condition or a list with filters. -/
abbrev ArgReader := Reader Expr

def argument (value : ArgReader) : Reader (String × Expr) := do
  let name ← identifier
  ws
  lit "="
  ws
  return (name, ← value)

def arguments (value : ArgReader) : Reader (List (String × Expr)) := do
  let args ← sepBy1 (argument value) comma
  discard (optional (do ws; lit ","))
  return args

def call (value : ArgReader) : Reader Call := do
  let name ← identifier
  ws
  return .mk name (← bracketed (arguments value))

def filter (value : ArgReader) : Reader Call := do
  lit "|"
  ws
  call value <|> (.mk · []) <$> identifier

def filters (value : ArgReader) : Reader (List Call) := many (do ws; filter value)

def testCall (value : ArgReader) : Reader (String × List Expr) := do
  let name ← identifier
  let args ← optional (do
    ws
    lit "("
    ws
    let args ← sepBy1 value comma
    ws
    lit ")"
    return args)
  return (name, args.getD [])

def test (value : ArgReader) : Reader Term := do
  let p ← path
  ws
  lit "is"
  ws
  let (negated, name, args) ←
    (do lit "not"; ws; return (true, ← testCall value)) <|> (do return (false, ← testCall value))
  return .test negated p name args

def macroCall (value : ArgReader) : Reader Term := do
  let file ← identifier
  ws
  lit "::"
  ws
  return .macroCall file (← call value)

/-! ## Arithmetic -/

def arithOp : Reader ArithOp :=
  (lit "+" *> pure .add) <|> (lit "-" *> pure .sub) <|> (lit "*" *> pure .mul) <|>
  (lit "/" *> pure .div) <|> (lit "%" *> pure .rem)

def ArithOp.isProduct : ArithOp → Bool
  | .mul | .div | .rem => true
  | .add | .sub => false

/-- Joins a pending sum and a product. -/
def joinSum (sum : Option (Expr × ArithOp)) (product : Expr) : Expr :=
  match sum with
  | none => product
  | some (lhs, op) => .ofTerm (.arith op lhs product)

/-- Groups operands from the left, products before sums. -/
def groupArith (sum : Option (Expr × ArithOp)) (product : Expr) : List (ArithOp × Expr) → Expr
  | [] => joinSum sum product
  | (op, e) :: rest =>
    if op.isProduct then groupArith sum (.ofTerm (.arith op product e)) rest
    else groupArith (some (joinSum sum product, op)) e rest

/-- Operands with operators between them. -/
def operands (p : Reader Expr) : Reader Expr := do
  let first ← p
  let rest ← many (do
    ws
    let op ← arithOp
    ws
    return (op, ← p))
  return groupArith none first rest

def simpleTerm (value : ArgReader) : Reader Term :=
  (.bool <$> boolLiteral) <|> test value <|> macroCall value <|> (.call <$> call value) <|>
  (.path <$> path) <|> (.float <$> floatLiteral) <|> (.int <$> intLiteral)

/-- Sums and products of terms, with brackets nested less deep than the bound. -/
def arithmetic (value : ArgReader) : Nat → Reader Expr
  | 0 => failure
  | depth + 1 =>
    operands ((do
      lit "("
      ws
      let e ← arithmetic value depth
      ws
      lit ")"
      return e) <|> (.ofTerm <$> simpleTerm value))

/-- Puts filters behind the value of a term. -/
def filtered (e : Expr) (fs : List Call) : Expr := .mk e.term false fs

/-- Arithmetic with filters behind it. -/
def filteredArithmetic (value : ArgReader) : Reader Expr := do
  let e ← fun cs => arithmetic value (cs.length + 1) cs
  return filtered e (← filters value)

/-! ## Strings and lists -/

def concatPart (value : ArgReader) : Reader Term :=
  (.call <$> call value) <|> (.float <$> floatLiteral) <|> (.int <$> intLiteral) <|>
  (.text <$> stringLiteral) <|> (.path <$> path)

/-- Makes one text of neighbouring texts. -/
def mergeTexts : List Term → List Term
  | [] => []
  | .text s :: rest =>
    match mergeTexts rest with
    | .text t :: rest => .text (s ++ t) :: rest
    | rest => if s.isEmpty then rest else .text s :: rest
  | t :: rest => t :: mergeTexts rest

/-- The texts of two terms or more; of strings alone, a string. -/
def concatenation (value : ArgReader) : Reader Term := do
  let first ← concatPart value
  let second ← do ws; lit "~"; ws; concatPart value
  let rest ← many (do ws; lit "~"; ws; concatPart value)
  match mergeTexts (first :: second :: rest) with
  | [] => return .text ""
  | [.text s] => return .text s
  | parts => return .concat parts

def filteredString (value : ArgReader) : Reader Expr := do
  let t ← concatenation value <|> (.text <$> stringLiteral)
  return .mk t false (← filters value)

/-- A list with filters behind it. `item` reads one side of `and` and `or`. -/
def filteredList (value item : ArgReader) : Reader Expr := do
  lit "["
  ws
  let items ← many (do
    let e ← item
    ws
    lit ","
    ws
    return e)
  let last ← optional item
  ws
  lit "]"
  return .mk (.list (items ++ last.toList)) false (← filters value)

/-! ## Conditions -/

def relation : Reader Relation :=
  (lit ">=" *> pure .ge) <|> (lit ">" *> pure .gt) <|> (lit "<=" *> pure .le) <|>
  (lit "<" *> pure .lt) <|> (lit "==" *> pure .eq) <|> (lit "!=" *> pure .ne)

/-- One side of a comparison. -/
def comparand (value : ArgReader) : Reader Expr :=
  filteredString value <|> operands (filteredArithmetic value)

def comparison (value : ArgReader) : Reader Expr := do
  let lhs ← comparand value
  let rest ← optional (do
    ws
    let op ← relation
    ws
    return (op, ← comparand value))
  match rest with
  | none => return lhs
  | some (op, rhs) => return .ofTerm (.relation op lhs rhs)

def membership (value item : ArgReader) : Reader Expr := do
  let lhs ← filteredString value <|> filteredArithmetic value
  ws
  let negated ← given (word "not")
  ws
  lit "in"
  ws
  let rhs ← filteredString value <|> filteredList value item <|> ((.ofTerm ∘ .path) <$> path)
  return .ofTerm (.membership negated lhs rhs)

/-- Joins a pending alternative and a conjunction. -/
def joinOr (alternative : Option Expr) (conjunction : Expr) : Expr :=
  match alternative with
  | none => conjunction
  | some lhs => .ofTerm (.connective .or lhs conjunction)

/-- Groups conditions from the left, `and` before `or`. -/
def groupConditions (alternative : Option Expr) (conjunction : Expr) :
    List (Connective × Expr) → Expr
  | [] => joinOr alternative conjunction
  | (.and, e) :: rest =>
    groupConditions alternative (.ofTerm (.connective .and conjunction e)) rest
  | (.or, e) :: rest => groupConditions (some (joinOr alternative conjunction)) e rest

def connective : Reader Connective :=
  (word "or" *> pure .or) <|> (word "and" *> pure .and)

/-- One side of `and` and `or`. A condition in brackets loses a `not` that it starts with. -/
def conjunct (nested value item : ArgReader) : Reader Expr :=
  (do
    let negated ← given (word "not")
    ws
    let e ← membership value item <|> comparison value
    return e.withNegated negated) <|>
  (do
    lit "("
    ws
    let e ← nested
    ws
    lit ")"
    return e.withNegated false)

def conditions (conjunct : Reader Expr) : Reader Expr := do
  let first ← conjunct
  let rest ← many (do
    ws
    let op ← connective
    ws
    return (op, ← conjunct))
  return groupConditions none first rest

/-- Readers of expressions nested less deep than the bound: of a condition, of one side of `and`
and `or`, and of what can be an argument. -/
structure Level where
  condition : Reader Expr
  side : Reader Expr
  argument : Reader Expr

/-- The readers one level up. -/
def Level.above (l : Level) : Level :=
  let side := conjunct l.condition l.argument l.side
  let condition := conditions side
  { condition, side, argument := condition <|> filteredList l.argument l.side }

def level : Nat → Level
  | 0 => { condition := failure, side := failure, argument := failure }
  | depth + 1 => (level depth).above

/-- The readers for the text at hand: no text is nested deeper than it is long. -/
def atLevel (choose : Level → Reader α) : Reader α := fun cs => choose (level (cs.length + 1)) cs

/-- Reads a condition. -/
def Expr.reader : Reader Expr := atLevel (·.condition)

/-- Reads a condition or a list. -/
def Expr.valueReader : Reader Expr := atLevel (·.argument)

/-- Reads what a loop goes over: arithmetic or a list, with filters. -/
def Expr.containerReader : Reader Expr :=
  atLevel fun l => filteredArithmetic l.argument <|> filteredList l.argument l.side

/-- Reads a filter with or without arguments. -/
def Call.reader : Reader Call :=
  atLevel fun l => call l.argument <|> (.mk · []) <$> identifier

end Schemata.Template
