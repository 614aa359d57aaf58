import Schemata.Template.Eval

/-!
# Rendering templates

`Env.render` renders the nodes of a template in order. What is inside a node is rendered by
recursion on the node; the bodies of macros, of blocks by name, and of the template included in
itself start afresh, and are nested less deep than a bound.
-/

namespace Schemata.Template

open Template.Action

/-! ## Loops -/

/-- How a container is called in messages. -/
def containerName : Term → Except Fault String
  | .path p => .ok p
  | .call c => .ok c.name
  | .list _ => .ok "an array literal"
  | t => .error (.notALoopContainer t)

/-- The loop over the values of a container. -/
def loopOver (key : Option String) (name container : String) : Data → Except Fault Loop
  | .list items =>
    if key.isSome then .error (.notKeyed container)
    else .ok { name, items := items.map fun d => ("", d), count := items.length }
  | .string s =>
    if key.isSome then .error (.notKeyed container)
    else .ok {
      name, items := (Text.graphemes s).map fun cluster => ("", .string cluster)
      count := s.length }
  | .object entries =>
    if key.isSome then .ok { key, name, items := entries, count := entries.length }
    else .error (.missingKey container)
  | _ => .error (.notIterable container)

/-- At most so many rounds of a loop; its frame is the innermost one. -/
def renderRounds (body : Action Unit) : Nat → Action Unit
  | 0 => return
  | n + 1 => do
    body
    if (← get).signal != .breakLoop then
      nextRound
      renderRounds body n

/-! ## Nodes -/

namespace Site

/-- Renders a tag. -/
def renderTag (s : Site) : Tag → Action Unit
  | .print e => do write (← evalExpr s e).text
  | .set false name e => do
    let d ← evalExpr s e
    modify (·.set name d)
  | .set true name e => do
    let d ← evalExpr s e
    modify fun page => { page with frames := Page.setOutermost name d page.frames }
  | .includeFile files mayBeMissing => do
    if files.contains s.env.template.name then inFrame {} (s.renderBody s.env.template.nodes)
    else if !mayBeMissing then fail (.missingTemplates files)
  | .breakLoop => leave .breakLoop
  | .continueLoop => leave .continueLoop
  | .importFile .. | .extend _ | .comment => return

mutual

def renderNode (s : Site) : Node → Action Unit
  | .text text => write text
  | .raw _ _ text => write text
  | .tag _ tag => s.renderTag tag
  | .parentBlock => fail .noParentBlock
  | .body _ _ (.block name) nodes _ =>
    match s.env.template.blocks.lookup name with
    | some nodes => s.renderBody nodes
    | none => renderNodes s nodes
  | .body _ _ (.definition ..) _ _ => return
  | .body _ _ (.filter (.mk name args)) nodes _ => do
    let text ← captured (renderNodes s nodes)
    if name == "safe" then write text
    else write (← s.callFilter name (.string text) (evalArgs s args)).text
  | .body _ _ (.loop key name container) nodes otherwise => do
    let called ← settled (containerName container.term)
    let loop ← settled (loopOver key name called (← evalExpr s container))
    if loop.count = 0 then renderOtherwise s otherwise
    else inFrame { opening := .loop loop } (renderRounds (renderNodes s nodes) loop.count)
  | .cond branches otherwise _ => renderBranches s branches (renderElse s otherwise)

/-- Renders nodes until one ends the round of a loop. -/
def renderNodes (s : Site) : List Node → Action Unit
  | [] => return
  | n :: rest => do
    renderNode s n
    if (← get).signal = .proceed then renderNodes s rest

/-- Renders the body of the first condition that holds, or else `otherwise`. -/
def renderBranches (s : Site) : List (Trim × Expr × List Node) → Action Unit → Action Unit
  | [], otherwise => otherwise
  | (_, e, nodes) :: rest, otherwise => do
    if ← evalBool s e then renderNodes s nodes else renderBranches s rest otherwise

def renderElse (s : Site) : Option (Trim × List Node) → Action Unit
  | none => return
  | some (_, nodes) => renderNodes s nodes

def renderOtherwise (s : Site) : Option (List Node) → Action Unit
  | none => return
  | some nodes => renderNodes s nodes

end

end Site

/-! ## Whole templates -/

namespace Env

/-- A site whose bodies are nested at most so deep. -/
def site (env : Env) : Nat → Site
  | 0 => { env, renderBody := fun _ => fail .tooDeep }
  | depth + 1 => { env, renderBody := (env.site depth).renderNodes }

/-- How deep macros may call each other. -/
def maxDepth : Nat := 10000

/-- The text of a template. -/
def render (env : Env) : Except Failure String :=
  let (outcome, page) := (env.site maxDepth).renderNodes env.template.nodes {}
  match outcome with
  | .ok () => .ok page.text
  | .error fault => .error { fault, call := page.top?.bind Frame.call? }

end Env

end Schemata.Template
