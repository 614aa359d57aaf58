import Schemata.Proofs.Template.Eval
import Schemata.Template.Render

/-!
# Runs of nodes and loops

Nodes run one behind the other as long as no loop is told to end its round, and a loop runs its
body once for each of its items. Both are runs in the sense of `Action.Runs`.
-/

namespace Schemata.Template

open Template.Action

namespace Action

section
variable {fs : List Frame} {l : Loop}

theorem runs_nextRound (proceeds : l.signal = .proceed) (i : Nat) :
    Runs nextRound ((l.after i).frame :: fs) True () "" ((l.after (i + 1)).frame :: fs) where
  ok _ before := by
    have step : nextRound ⟨before, (l.after i).frame :: fs⟩ =
        (.ok (), ⟨before, (l.after i).next.frame :: fs⟩) := rfl
    have next : (l.after i).next = l.after (i + 1) := by
      rw [Loop.next, Loop.after, Loop.after, ← proceeds]
    rw [step, next, String.append_empty]
  fault h := absurd trivial h

/-- Each round runs the body for one of the `xs`: by induction on the rounds that are left, of which
the elements not yet seen are as many. -/
theorem runs_renderRounds {β : Type} (xs : List β) (proceeds : l.signal = .proceed)
    {body : Action Unit} {holds : β → Prop} {text : β → String}
    (hbody : ∀ i x, xs[i]? = some x →
      Runs body ((l.after i).frame :: fs) (holds x) () (text x) ((l.after i).frame :: fs)) :
    ∀ n i, i + n = xs.length →
      Runs (renderRounds body n) ((l.after i).frame :: fs) (∀ x ∈ xs.drop i, holds x) ()
        (String.join ((xs.drop i).map text)) ((l.after (i + n)).frame :: fs) := by
  intro n
  induction n with
  | zero =>
    intro i hi
    have finished : xs.drop i = [] := List.drop_of_length_le (by omega)
    rw [finished]
    exact (Runs.pure () _).congr (by simp) (fun _ => rfl) (fun _ => rfl)
  | succ n ih =>
    intro i hi
    have inside : i < xs.length := by omega
    have goesOn (before : String) :
        Page.signal ⟨before, (l.after i).frame :: fs⟩ != .breakLoop := by
      rw [show Page.signal ⟨before, (l.after i).frame :: fs⟩ = l.signal from rfl, proceeds]
      rfl
    have rest := (runs_nextRound proceeds i).bind (f := fun _ => renderRounds body n) fun _ =>
      ih (i + 1) (by omega)
    have round := hbody i _ (List.getElem?_eq_getElem inside)
    rw [List.drop_eq_getElem_cons inside, show i + (n + 1) = i + 1 + n by omega]
    refine (round.bind fun _ => rest.get fun before => if_pos (goesOn before)).congr ?_
      (fun _ => rfl) fun _ => ?_
    · rw [true_and, List.forall_mem_cons]
    · rw [String.empty_append, List.map_cons, String.join_cons]

/-- A loop with a round for each of the `xs`, whose frame is gone afterwards. -/
theorem runs_loop {β : Type} (xs : List β) (start : l.index = 0) (proceeds : l.signal = .proceed)
    {body : Action Unit} {holds : β → Prop} {text : β → String}
    (hbody : ∀ i x, xs[i]? = some x →
      Runs body ((l.after i).frame :: fs) (holds x) () (text x) ((l.after i).frame :: fs)) :
    Runs (inFrame l.frame (renderRounds body xs.length)) fs (∀ x ∈ xs, holds x) ()
      (String.join (xs.map text)) fs := by
  have rounds := runs_renderRounds xs proceeds hbody xs.length 0 (by omega)
  have first : l.after 0 = l := by rw [Loop.after, ← start]
  rw [first, List.drop_zero] at rounds
  exact runs_inFrame rounds

end

end Action

/-! ## Nodes -/

section
variable {s : Site} {fs : List Frame} {holds also : Prop} {text rest : String}

theorem runs_renderNodes_nil : Runs (s.renderNodes []) fs True () "" fs := by
  rw [Site.renderNodes]
  exact Runs.pure () fs

theorem runs_renderNodes_cons {n : Node} {ns : List Node} (proceeds : signalOf fs = .proceed)
    (hn : Runs (s.renderNode n) fs holds () text fs)
    (hns : holds → Runs (s.renderNodes ns) fs also () rest fs) :
    Runs (s.renderNodes (n :: ns)) fs (holds ∧ also) () (text ++ rest) fs := by
  rw [Site.renderNodes]
  exact hn.bind fun hold => (hns hold).get fun before => if_pos proceeds

theorem runs_renderNodes_one {n : Node} (proceeds : signalOf fs = .proceed)
    (hn : Runs (s.renderNode n) fs holds () text fs) :
    Runs (s.renderNodes [n]) fs holds () text fs :=
  (runs_renderNodes_cons proceeds hn fun _ => runs_renderNodes_nil).congr (by simp) (fun _ => rfl)
    fun _ => String.append_empty

theorem runs_text_node (text : String) : Runs (s.renderNode (.text text)) fs True () text fs := by
  rw [Site.renderNode]
  exact runs_write text

theorem runs_print {e : Expr} {d : Data} (trim : Trim)
    (h : Runs (evalExpr s e) fs holds d "" fs) :
    Runs (s.renderNode (.tag trim (.print e))) fs holds () d.text fs := by
  rw [Site.renderNode, Site.renderTag]
  exact (h.silent fun _ => runs_write d.text).congr (by simp) (fun _ => rfl) fun _ => rfl

/-- A loop without an alternative renders its body once for each of the `xs` that its items are. -/
theorem runs_loop_node {β : Type} (xs : List β) {opening closing : Trim} {key : Option String}
    {name called : String} {container : Expr} {nodes : List Node} {d : Data}
    {f : β → String × Data} {holds : β → Prop} {text : β → String}
    (hcalled : containerName container.term = .ok called)
    (value : Runs (evalExpr s container) fs True d "" fs)
    (hloop : loopOver key name called d =
      .ok { key, name, items := xs.map f, count := (xs.map f).length })
    (hbody : ∀ l x, Loop.At l key name (f x) →
      Runs (s.renderNodes nodes) (l.frame :: fs) (holds x) () (text x) (l.frame :: fs)) :
    Runs (s.renderNode (.body opening closing (.loop key name container) nodes none)) fs
      (∀ x ∈ xs, holds x) () (String.join (xs.map text)) fs := by
  rw [Site.renderNode]
  refine (runs_settled_ok hcalled).step (value.step ((runs_settled_ok hloop).step ?_))
  rw [List.length_map]
  -- over nothing no frame is opened, but what the rounds would write is nothing as well
  by_cases none : xs.length = 0
  · have empty : xs = [] := List.length_eq_zero_iff.mp none
    rw [if_pos none, Site.renderOtherwise, empty]
    exact (Runs.pure () fs).congr (by simp) (fun _ => rfl) fun _ => rfl
  · rw [if_neg none]
    refine runs_loop xs rfl rfl fun i x h => hbody _ x ⟨rfl, rfl, ?_, rfl⟩
    rw [Loop.after, Loop.item?, List.getElem?_map, h, Option.map_some]

/-- `runs_loop_node` for the items of a list. -/
theorem runs_list_loop {β : Type} (xs : List β) {opening closing : Trim} {name called : String}
    {container : Expr} {nodes : List Node} {data : β → Data} {holds : β → Prop} {text : β → String}
    (hcalled : containerName container.term = .ok called)
    (value : Runs (evalExpr s container) fs True (.list (xs.map data)) "" fs)
    (hbody : ∀ l x, Loop.At l none name ("", data x) →
      Runs (s.renderNodes nodes) (l.frame :: fs) (holds x) () (text x) (l.frame :: fs)) :
    Runs (s.renderNode (.body opening closing (.loop none name container) nodes none)) fs
      (∀ x ∈ xs, holds x) () (String.join (xs.map text)) fs := by
  refine runs_loop_node (f := fun x => ("", data x)) xs hcalled value ?_ hbody
  rw [loopOver, List.map_map, List.length_map, List.length_map]
  rfl

theorem runs_branches_nil : Runs (s.renderBranches [] (s.renderElse none)) fs True () "" fs := by
  rw [Site.renderBranches, Site.renderElse]
  exact Runs.pure () fs

theorem runs_branch_true {e : Expr} {trim : Trim} {nodes : List Node}
    {branches : List (Trim × Expr × List Node)} {otherwise : Action Unit}
    (value : Runs (evalBool s e) fs True true "" fs)
    (h : Runs (s.renderNodes nodes) fs holds () text fs) :
    Runs (s.renderBranches ((trim, e, nodes) :: branches) otherwise) fs holds () text fs := by
  rw [Site.renderBranches]
  exact value.step h

theorem runs_branch_false {e : Expr} {trim : Trim} {nodes : List Node}
    {branches : List (Trim × Expr × List Node)} {otherwise : Action Unit}
    (value : Runs (evalBool s e) fs True false "" fs)
    (h : Runs (s.renderBranches branches otherwise) fs holds () text fs) :
    Runs (s.renderBranches ((trim, e, nodes) :: branches) otherwise) fs holds () text fs := by
  rw [Site.renderBranches]
  exact value.step h

end

/-! ## Whole templates -/

namespace Env

variable {env : Env} {fs : List Frame} {holds : Prop} {text : String}

theorem env_site (env : Env) (depth : Nat) : (env.site depth).env = env := by
  cases depth <;> rfl

theorem render_of_runs
    (h : Runs ((env.site maxDepth).renderNodes env.template.nodes) [{}] holds () text fs)
    (hold : holds) : env.render = .ok text := by
  unfold Env.render
  rw [show ({} : Page) = ⟨"", [{}]⟩ from rfl, h.ok hold "", String.empty_append]

theorem render_of_not_runs
    (h : Runs ((env.site maxDepth).renderNodes env.template.nodes) [{}] holds () text fs)
    (fails : ¬holds) : ∃ failure, env.render = .error failure := by
  obtain ⟨fault, page, he⟩ := h.fault fails ""
  unfold Env.render
  rw [show ({} : Page) = ⟨"", [{}]⟩ from rfl, he]
  exact ⟨_, rfl⟩

end Env

end Schemata.Template
