import Schemata.Template.Node.Reader

/-!
# Templates

`Template.compile` reads the text of a template, trims it, and collects its macros and imports.
Only the template itself can be included, imported or extended by name, and it cannot extend
itself.
-/

namespace Schemata

namespace Template

structure Macro where
  params : List Param
  body : List Node

/-- Why a text is no template. -/
inductive CompileFault where
  | malformed
  /-- An integer that has more than sixty-four bits. -/
  | wideInteger (value : Int)
  | duplicateBlock (name : String)
  | duplicateMacro (name : String)
  | missingParent (file : String)
  | ownParent
  | missingImport (file : String)
deriving DecidableEq, Repr

def CompileFault.message (template : String) : CompileFault → String
  | .malformed => s!"Failed to parse '{template}'"
  | .wideInteger i => s!"Failed to parse '{template}': Integer out of bounds: \x60{i}\x60"
  | .duplicateBlock name => s!"Failed to parse '{template}': Block \x60{name}\x60 is duplicated"
  | .duplicateMacro name => s!"Failed to parse '{template}': Macro \x60{name}\x60 is duplicated"
  | .missingParent file =>
    s!"Template '{template}' is inheriting from '{file}', which doesn't exist or isn't loaded."
  | .ownParent =>
    s!"Circular extend detected for template '{template}'. Inheritance chain: " ++
      "\x60[" ++ Text.quoted template ++ "]\x60"
  | .missingImport file =>
    s!"Template \x60{template}\x60 loads macros from \x60{file}\x60 which isn't present in Tera"

/-! ## Integers out of range -/

def isWide (i : Int) : Bool := !IntRange.int64.holds i

def wideData? : Data → Option Int
  | .number (.int i) => if isWide i then some i else none
  | _ => none

mutual

/-- The first integer that does not fit. -/
def Expr.wide? : Expr → Option Int
  | .mk term _ filters => term.wide?.or (wideInCalls filters)

def Term.wide? : Term → Option Int
  | .int i => if isWide i then some i else none
  | .text _ | .float _ | .bool _ | .path _ => none
  | .arith _ l r | .relation _ l r | .connective _ l r | .membership _ l r => l.wide?.or r.wide?
  | .test _ _ _ args => wideInExprs args
  | .call c => c.wide?
  | .macroCall _ c => c.wide?
  | .list items => wideInExprs items
  | .concat parts => wideInTerms parts

def Call.wide? : Call → Option Int
  | .mk _ args => wideInArgs args

def wideInCalls : List Call → Option Int
  | [] => none
  | c :: rest => c.wide?.or (wideInCalls rest)

def wideInExprs : List Expr → Option Int
  | [] => none
  | e :: rest => e.wide?.or (wideInExprs rest)

def wideInTerms : List Term → Option Int
  | [] => none
  | t :: rest => t.wide?.or (wideInTerms rest)

def wideInArgs : List (String × Expr) → Option Int
  | [] => none
  | (_, e) :: rest => e.wide?.or (wideInArgs rest)

end

def Tag.wide? : Tag → Option Int
  | .print e | .set _ _ e => e.wide?
  | _ => none

def Section.wide? : Section → Option Int
  | .loop _ _ container => container.wide?
  | .block _ => none
  | .filter c => c.wide?
  | .definition _ params => params.findSome? fun p => p.value.bind wideData?

mutual

def Node.wide? : Node → Option Int
  | .text _ | .raw .. | .parentBlock => none
  | .tag _ t => t.wide?
  | .body _ _ kind nodes otherwise =>
    (kind.wide?.or (wideInNodes nodes)).or (wideInOther otherwise)
  | .cond branches otherwise _ => (wideInBranches branches).or (wideInElse otherwise)

def wideInNodes : List Node → Option Int
  | [] => none
  | n :: rest => n.wide?.or (wideInNodes rest)

def wideInOther : Option (List Node) → Option Int
  | none => none
  | some nodes => wideInNodes nodes

def wideInElse : Option (Trim × List Node) → Option Int
  | none => none
  | some (_, nodes) => wideInNodes nodes

def wideInBranches : List (Trim × Expr × List Node) → Option Int
  | [] => none
  | (_, e, nodes) :: rest => (e.wide?.or (wideInNodes nodes)).or (wideInBranches rest)

end

/-! ## Names -/

mutual

/-- A block and the blocks right inside it, by name, with their bodies. -/
def Node.blocks : Node → List (String × List Node)
  | .body _ _ (.block name) nodes _ => (name, nodes) :: blocksOf nodes
  | _ => []

def blocksOf : List Node → List (String × List Node)
  | [] => []
  | n :: rest => n.blocks ++ blocksOf rest

end

/-- The first name that is there already. -/
def duplicate? (seen : List String) : List String → Option String
  | [] => none
  | name :: rest => if seen.contains name then some name else duplicate? (name :: seen) rest

def Node.definition? : Node → Option (String × Macro)
  | .body _ _ (.definition name params) nodes _ => some (name, { params, body := nodes })
  | _ => none

def Node.import? : Node → Option (String × String)
  | .tag _ (.importFile file name) => some (name, file)
  | _ => none

def Node.parent? : Node → Option String
  | .tag _ (.extend file) => some file
  | _ => none

end Template

structure Template where
  name : String
  nodes : List Template.Node
  /-- The blocks that stand outside of conditions and sections. A block of the same name anywhere
  else renders as this one. -/
  blocks : List (String × List Template.Node)
  macros : List (String × Template.Macro)
  /-- The names under which macros are imported. -/
  imports : List String

namespace Template

/-- Reads a template from its text. -/
def compile (name text : String) : Except CompileFault Template := do
  let nodes ← match Node.templateReader text.toList with
    | some (nodes, _) => pure nodes
    | none => throw .malformed
  if let some i := wideInNodes nodes then throw (.wideInteger i)
  let nodes := trimNodes nodes
  let blocks := blocksOf nodes
  if let some block := duplicate? [] (blocks.map (·.1)) then throw (.duplicateBlock block)
  let macros := nodes.filterMap Node.definition?
  if let some macroName := duplicate? [] (macros.map (·.1)) then throw (.duplicateMacro macroName)
  if let some parent := nodes.findSome? Node.parent? then
    throw (if parent == name then .ownParent else .missingParent parent)
  let imports := nodes.filterMap Node.import?
  if let some (_, file) := imports.find? (·.2 != name) then throw (.missingImport file)
  return { name, nodes, blocks, macros, imports := imports.map (·.1) }

end Template

end Schemata
