import Schemata.Data
import Schemata.Template.Expr
import Schemata.Text.Letter

/-!
# Nodes of templates

A template is a list of nodes. Tags remember on which sides they trim white space; `Node.trim`
applies that to the text around them, and rendering does not look at it any more.
-/

namespace Schemata.Template

/-- The sides on which a tag trims the text next to it. -/
structure Trim where
  before : Bool := false
  after : Bool := false
deriving DecidableEq, Repr, Inhabited

/-- A tag that stands alone. -/
inductive Tag where
  | print (value : Expr)
  /-- Sets a variable; `outermost` sets it outside of all loops. -/
  | set (outermost : Bool) (name : String) (value : Expr)
  | includeFile (files : List String) (mayBeMissing : Bool)
  | importFile (file name : String)
  | extend (file : String)
  | breakLoop
  | continueLoop
  | comment

/-- A parameter of a macro, with its value where the call gives none. -/
structure Param where
  name : String
  value : Option Data

/-- What is done with the body of a section. -/
inductive Section where
  | loop (key : Option String) (value : String) (container : Expr)
  | block (name : String)
  | filter (call : Call)
  | definition (name : String) (params : List Param)

inductive Node where
  | text (text : String)
  | raw (opening closing : Trim) (text : String)
  | tag (trim : Trim) (tag : Tag)
  /-- What a block of that name in a parent template says. -/
  | parentBlock
  /-- A body between two tags, and what a loop over nothing renders instead. -/
  | body (opening closing : Trim) (kind : Section) (nodes : List Node)
    (otherwise : Option (List Node))
  /-- The conditions in order, each with its tag and body. -/
  | cond (branches : List (Trim × Expr × List Node)) (otherwise : Option (Trim × List Node))
    (closing : Trim)

/-! ## Trimming -/

/-- Trims the end of the last node, if it is a text; an empty text is dropped. -/
def trimLast : List Node → List Node
  | [] => []
  | [.text s] => let s := Text.trimEnd s; if s.isEmpty then [] else [.text s]
  | n :: rest => n :: trimLast rest

/-- `trimLast` where a tag asks for it. -/
def trimLastIf (asked : Bool) (nodes : List Node) : List Node :=
  if asked then trimLast nodes else nodes

/-- Whether a node trims the text before it. -/
def Node.trimsBefore : Node → Bool
  | .text _ | .parentBlock => false
  | .raw opening _ _ => opening.before
  | .tag trim _ => trim.before
  | .body opening _ _ _ _ => opening.before
  | .cond branches _ _ => branches.head?.any (·.1.before)

/-- Whether a node trims the text after it, given whether the one before it does. -/
def Node.trimsAfter (pending : Bool) : Node → Bool
  | .text _ => false
  | .parentBlock => pending
  | .raw _ closing _ => closing.after
  | .tag trim _ => trim.after
  | .body _ closing _ _ _ => closing.after
  | .cond _ _ closing => closing.after

/-- Trims the texts among sibling nodes; `pending` tells whether the start of the first is to be
trimmed. -/
def trimSiblings (pending : Bool) : List Node → List Node
  | [] => []
  | .text s :: rest =>
    let s := if pending then Text.trimStart s else s
    let s := if rest.head?.any Node.trimsBefore then Text.trimEnd s else s
    if s.isEmpty then trimSiblings false rest else .text s :: trimSiblings false rest
  | n :: rest => n :: trimSiblings (n.trimsAfter pending) rest

def trimRaw (opening closing : Trim) (s : String) : String :=
  let s := if opening.after then Text.trimStart s else s
  if closing.before then Text.trimEnd s else s

mutual

/-- Trims the bodies inside a node. The body of an empty loop is left as it is. -/
def Node.trim : Node → Node
  | .raw opening closing s => .raw opening closing (trimRaw opening closing s)
  | .body opening closing kind nodes otherwise =>
    .body opening closing kind
      (trimLastIf closing.before (trimSiblings opening.after (trimInner nodes))) otherwise
  | .cond branches otherwise closing =>
    let beforeElse := match otherwise with
      | some (elseTag, _) => elseTag.before
      | none => closing.before
    .cond (trimBranches beforeElse branches) (trimElse closing.before otherwise) closing
  | n => n

def trimInner : List Node → List Node
  | [] => []
  | n :: rest => n.trim :: trimInner rest

/-- Trims the bodies of the branches; each ends before the next, the last before what follows. -/
def trimBranches (atEnd : Bool) :
    List (Trim × Expr × List Node) → List (Trim × Expr × List Node)
  | [] => []
  | (tag, e, nodes) :: rest =>
    let closing := match rest with
      | [] => atEnd
      | (next, _, _) :: _ => next.before
    (tag, e, trimLastIf closing (trimSiblings tag.after (trimInner nodes))) ::
      trimBranches atEnd rest

def trimElse (atEnd : Bool) : Option (Trim × List Node) → Option (Trim × List Node)
  | none => none
  | some (tag, nodes) =>
    some (tag, trimLastIf atEnd (trimSiblings tag.after (trimInner nodes)))

end

/-- Applies the trimming that tags ask for. -/
def trimNodes (nodes : List Node) : List Node := trimSiblings false (trimInner nodes)

end Schemata.Template
