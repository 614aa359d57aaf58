import Schemata.Template.Expr.Reader
import Schemata.Template.Node

/-!
# Reading nodes

`Node.templateReader` reads a whole template: the template it extends, its imports, and then its
body. Which tags may stand at a place depends on the region around it: loops may be left only
inside loops, and macros are defined only outside of everything else.
-/

namespace Schemata.Template

open Reader

/-- What surrounds a place in a template. -/
inductive Region where
  /-- Around everything else. -/
  | top
  /-- In a condition around which there is nothing else. -/
  | branch
  | block | loop | filter | definition
deriving DecidableEq, Repr

/-- Fails unless the condition holds. -/
def ensure (holds : Bool) : Reader Unit := if holds then pure () else failure

/-! ## Tags -/

/-- Reads the opening of a tag and tells whether it trims. -/
def tagStart : Reader Bool := (lit "\x7b%-" *> pure true) <|> (lit "\x7b%" *> pure false)

def tagEnd : Reader Bool := (lit "-%\x7d" *> pure true) <|> (lit "%\x7d" *> pure false)

def printStart : Reader Bool := (lit "\x7b\x7b-" *> pure true) <|> (lit "\x7b\x7b" *> pure false)

def printEnd : Reader Bool := (lit "-\x7d\x7d" *> pure true) <|> (lit "\x7d\x7d" *> pure false)

def commentStart : Reader Bool := (lit "\x7b#-" *> pure true) <|> (lit "\x7b#" *> pure false)

def commentEnd : Reader Bool := (lit "-#\x7d" *> pure true) <|> (lit "#\x7d" *> pure false)

/-- Whether a tag of any kind opens here. -/
def anyStart : Reader Unit := lit "\x7b\x7b" <|> lit "\x7b%" <|> lit "\x7b#"

/-- Reads a tag of one word, with more behind the word. -/
def tagOf (keyword : String) (more : Reader α) : Reader (Trim × α) := do
  let before ← tagStart
  ws
  lit keyword
  let found ← more
  ws
  let after ← tagEnd
  return ({ before, after }, found)

/-- A tag of one word alone. -/
def plainTag (keyword : String) : Reader Trim := do return (← tagOf keyword (pure ())).1

/-- A closing tag, which may repeat the name of what it closes. -/
def namedEnd (keyword : String) : Reader Trim := do
  return (← tagOf keyword (do ws; optional identifier)).1

def commentTag : Reader Node := do
  let before ← commentStart
  let text ← textBefore (discard commentEnd)
  ensure !text.isEmpty
  let after ← commentEnd
  return .tag { before, after } .comment

def printTag : Reader Node := do
  let before ← printStart
  ws
  let e ← Expr.valueReader
  ws
  let after ← printEnd
  return .tag { before, after } (.print e)

def parentBlockTag : Reader Node := do
  discard printStart
  ws
  lit "super()"
  ws
  discard printEnd
  return .parentBlock

def setTag (keyword : String) (outermost : Bool) : Reader Node := do
  let (trim, name, e) ← tagOf keyword do
    ws1
    let name ← identifier
    ws
    lit "="
    ws
    return (name, ← Expr.valueReader)
  return .tag trim (.set outermost name e)

/-- The names of files: one, or a list. -/
def fileNames : Reader (List String) :=
  ((fun s => [s]) <$> stringLiteral) <|> do
    lit "["
    ws
    let names ← many (do
      let s ← stringLiteral
      ws
      lit ","
      ws
      return s)
    let last ← optional stringLiteral
    ws
    lit "]"
    return names ++ last.toList

def includeTag : Reader Node := do
  let (trim, names, mayBeMissing) ← tagOf "include" do
    ws1
    let names ← fileNames
    let mayBeMissing ← given (do ws; lit "ignore"; ws; lit "missing")
    return (names, mayBeMissing)
  return .tag trim (.includeFile names mayBeMissing)

/-- A tag in front of the body; the white space around it is no part of the body. -/
def leadingTag (tag : Reader α) : Reader α := do
  ws
  let found ← tag
  ws
  return found

def importTag : Reader Node := leadingTag do
  let (trim, file, name) ← tagOf "import" do
    ws1
    let file ← stringLiteral
    ws1
    lit "as"
    ws1
    return (file, ← identifier)
  return .tag trim (.importFile file name)

def extendTag : Reader Node := leadingTag do
  let (trim, file) ← tagOf "extends" (do ws1; stringLiteral)
  return .tag trim (.extend file)

/-! ## Sections -/

def loopHead : Reader (Trim × Section) :=
  tagOf "for" do
    ws1
    let first ← identifier
    let second ← optional (do lit ","; ws; identifier)
    ws1
    lit "in"
    ws1
    let container ← Expr.containerReader
    match second with
    | none => return .loop none first container
    | some value => return .loop (some first) value container

/-- What a parameter can have as its value. -/
def paramValue : Reader Data :=
  (.bool <$> boolLiteral) <|> (.string <$> stringLiteral) <|>
  ((.number ∘ .float) <$> floatLiteral) <|> ((.number ∘ .int) <$> intLiteral)

def param : Reader Param := do
  let name ← identifier
  let value ← optional (do ws; lit "="; ws; paramValue)
  return { name, value }

def definitionHead : Reader (Trim × Section) :=
  tagOf "macro" do
    ws1
    let name ← identifier
    ws
    return .definition name (← bracketed (sepBy1 param comma))

/-- A section whose body is read by `nodes`. -/
def bodyBetween (head : Reader (Trim × Section)) (nodes : Reader (List Node))
    (closing : Reader Trim) : Reader Node := do
  let (trim, kind) ← head
  let body ← nodes
  return .body trim (← closing) kind body none

def loopNode (nodes : Reader (List Node)) : Reader Node := do
  let (trim, kind) ← loopHead
  let body ← nodes
  let otherwise ← optional (do
    discard (plainTag "else")
    nodes)
  return .body trim (← plainTag "endfor") kind body otherwise

def condNode (nodes : Reader (List Node)) : Reader Node := do
  let branch (keyword : String) : Reader (Trim × Expr × List Node) := do
    let (trim, e) ← tagOf keyword (do ws1; Expr.reader)
    return (trim, e, ← nodes)
  let first ← branch "if"
  let rest ← many (branch "elif")
  let otherwise ← optional (do
    let trim ← plainTag "else"
    return (trim, ← nodes))
  return .cond (first :: rest) otherwise (← plainTag "endif")

def rawNode : Reader Node := do
  let opening ← plainTag "raw"
  let text ← textBefore (discard (plainTag "endraw"))
  return .raw opening (← plainTag "endraw") text

def textNode : Reader Node := do
  let text ← textBefore anyStart
  if text.isEmpty then failure else return .text text

/-! ## Regions -/

/-- Tags that may stand everywhere. -/
def commonNode : Reader Node :=
  printTag <|> commentTag <|> includeTag <|> setTag "set" false <|> setTag "set_global" true

def blockNode (nodes : Region → Reader (List Node)) : Reader Node :=
  bodyBetween (tagOf "block" (do ws1; return .block (← identifier))) (nodes .block)
    (namedEnd "endblock")

/-- Nodes that only some regions hold; `nodes` reads a body. -/
def regionNode (nodes : Region → Reader (List Node)) : Region → Reader Node
  | .top =>
    blockNode nodes <|> bodyBetween definitionHead (nodes .definition) (namedEnd "endmacro")
  | .branch | .filter => blockNode nodes
  | .block => parentBlockTag <|> blockNode nodes
  | .loop =>
    ((.tag · .breakLoop) <$> plainTag "break") <|> ((.tag · .continueLoop) <$> plainTag "continue")
  | .definition => failure

/-- The region of the branches of a condition. -/
def Region.ofBranches : Region → Region
  | .top => .branch
  | region => region

def node (nodes : Region → Reader (List Node)) (region : Region) : Reader Node :=
  regionNode nodes region <|> commonNode <|> condNode (nodes region.ofBranches) <|>
  loopNode (nodes .loop) <|>
  bodyBetween (tagOf "filter" (do ws1; return .filter (← Call.reader))) (nodes .filter)
    (plainTag "endfilter") <|>
  rawNode <|> textNode

/-- Nodes whose bodies are nested less deep than the bound. -/
def nodesWithin : Nat → Region → Reader (List Node)
  | 0, _ => failure
  | depth + 1, region => many (node (nodesWithin depth) region)

/-- Reads nodes for as long as one can be read in the region. -/
def Region.reader (region : Region) : Reader (List Node) := fun cs =>
  nodesWithin (cs.length + 1) region cs

/-- A whole template. Comments in front of everything else leave no trace. -/
def Node.templateReader : Reader (List Node) := do
  discard (many commentTag)
  let parent ← optional extendTag
  let imports ← many importTag
  let body ← Region.top.reader
  atEnd
  return parent.toList ++ imports ++ body

end Schemata.Template
