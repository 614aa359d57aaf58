import Schemata.Proofs.Template.Action

/-!
# Values of variables

How variables are found in the frames of loops, and what the evaluation of a variable, of one
under a filter and of a comparison comes to.
-/

namespace Schemata.Template

open Template.Action

/-- How a path is written: without brackets, for no counter of a loop, with its first name and what
follows the point behind it. -/
structure ReadsAs (path name : String) (rest : Option String) : Prop where
  notWhole : path ≠ Env.wholeContext
  noBracket : '[' ∉ path.toList
  noCounter : ∀ l : Loop, l.counter? path = none
  split : Path.split path = (name, rest)

/-- Only paths that begin with `loop` are counters. -/
theorem Loop.counter?_eq_none {path : String} (l : Loop) (h : (Path.split path).1 ≠ "loop") :
    l.counter? path = none := by
  unfold counter?
  split
  · exact absurd (by decide +kernel) h
  · exact absurd (by decide +kernel) h
  · exact absurd (by decide +kernel) h
  · exact absurd (by decide +kernel) h
  · rfl

/-- How a path is written can be computed. -/
theorem ReadsAs.of_split {path name : String} {rest : Option String}
    (h : path ≠ Env.wholeContext ∧ '[' ∉ path.toList ∧ name ≠ "loop" ∧
      Path.split path = (name, rest)) : ReadsAs path name rest := by
  obtain ⟨notWhole, noBracket, notLoop, split⟩ := h
  exact ⟨notWhole, noBracket, fun l => l.counter?_eq_none (by rwa [split]), split⟩

namespace Loop

/-- The loop when so many rounds are over. -/
def after (l : Loop) (i : Nat) : Loop := { l with index := i }

/-- The frame that the loop opens, with nothing set. -/
def frame (l : Loop) : Frame := { opening := .loop l }

/-- A round of a loop that goes on, and the item that it is at. -/
structure At (l : Loop) (key : Option String) (name : String) (item : String × Data) : Prop where
  key : l.key = key
  name : l.name = name
  here : l.item? = some item
  proceeds : l.signal = .proceed

variable {l : Loop} {path name : String} {key rest : Option String} {item : String × Data}

/-- Apart from counters and the key, a loop knows its item. -/
theorem lookup_eq (reads : ReadsAs path name rest) (h : l.key ≠ some path) :
    l.lookup path =
      partBy (fun name => if name == l.name then l.item?.map (·.2) else none) path := by
  have noKey : ¬(l.key == some path && l.name != path) := by simp [h]
  unfold Loop.lookup
  rw [reads.noCounter]
  exact if_neg noKey

namespace At

/-- A path that begins with the name of the loop leads into its item. -/
theorem lookup_name (h : l.At key name item) (reads : ReadsAs path name rest)
    (ne : key ≠ some path) : l.lookup path = rest.elim (some item.2) (Data.at? · item.2) := by
  rw [lookup_eq reads (h.key ▸ ne), partBy, reads.split]
  cases rest <;> simp [h.name, h.here]

theorem lookup_of_ne {first : String} (h : l.At key name item) (reads : ReadsAs path first rest)
    (ne : key ≠ some path) (other : first ≠ name) : l.lookup path = none := by
  rw [lookup_eq reads (h.key ▸ ne), partBy, reads.split]
  cases rest <;> simp [h.name, other]

theorem signalOf_frame (h : l.At key name item) (fs : List Frame) :
    signalOf (l.frame :: fs) = .proceed :=
  h.proceeds

theorem lookup_key (h : l.At (some path) name item) (reads : ReadsAs path path none)
    (ne : name ≠ path) : l.lookup path = some (.string item.1) := by
  unfold Loop.lookup
  rw [reads.noCounter]
  simp [h.key, h.name, h.here, ne]

end At

end Loop

namespace Env

variable (env : Env) (fs : List Frame) (path : String)

theorem partBy_nil : partBy (Fields.get? []) path = none := by
  unfold partBy
  split <;> rfl

/-- Variables are looked up in the innermost loop first. -/
theorem lookup_frame (l : Loop) :
    env.lookup (l.frame :: fs) path = (l.lookup path).or (env.lookup fs path) := by
  have seen : Frame.seen (l.frame :: fs) = l.frame :: Frame.seen fs := rfl
  have own : l.frame.lookup path = l.lookup path := by
    unfold Frame.lookup
    rw [show l.frame.vars = [] from rfl, partBy_nil]
    rfl
  unfold Env.lookup
  rw [seen, List.findSome?_cons, own]
  cases l.lookup path <;> rfl

/-- Outside of all loops only the context is left. -/
theorem lookup_root : env.lookup [{}] path = partBy env.context.get? path := by
  have own : Frame.lookup {} path = none := by
    unfold Frame.lookup
    rw [show Frame.vars {} = [] from rfl, partBy_nil]
    rfl
  unfold Env.lookup
  rw [show Frame.seen [{}] = [{}] from rfl, List.findSome?_cons, own]
  rfl

/-- A path without brackets is looked up as it is written. -/
theorem valueAt_of_some {name : String} {rest : Option String} {d : Data}
    (reads : ReadsAs path name rest) (h : env.lookup fs path = some d) :
    env.valueAt fs path = .ok d := by
  unfold Env.valueAt Env.valueWithin
  rw [if_neg (by simpa using reads.notWhole), if_neg (by simpa using reads.noBracket)]
  simp only [h]

theorem valueAt_of_none {name : String} {rest : Option String} (reads : ReadsAs path name rest)
    (h : env.lookup fs path = none) :
    env.valueAt fs path = .error (.unknownVariable path env.template.name) := by
  unfold Env.valueAt Env.valueWithin
  rw [if_neg (by simpa using reads.notWhole), if_neg (by simpa using reads.noBracket)]
  simp only [h]

end Env

theorem at?_eq_child? {step : String} (steps : Path.steps step = [step]) (d : Data) :
    Data.at? step d = d.child? step := by
  rw [Data.at?, steps, Data.part?]
  cases d.child? step <;> rfl

/-- A path with one step into the item of the innermost loop. -/
theorem Env.lookup_step {env : Env} {fs : List Frame} {l : Loop} {key : Option String}
    {path name step : String} {item : String × Data} (h : l.At key name item)
    (reads : ReadsAs path name (some step)) (ne : key ≠ some path)
    (steps : Path.steps step = [step]) :
    env.lookup (l.frame :: fs) path = (item.2.child? step).or (env.lookup fs path) := by
  rw [lookup_frame, h.lookup_name reads ne, Option.elim_some, at?_eq_child? steps]

/-! ## Evaluations -/

section
variable {s : Site} {fs : List Frame} {path name : String} {rest : Option String}
  {holds also : Prop} {d e : Data}

theorem runs_valueAt (reads : ReadsAs path name rest)
    (found : holds → s.env.lookup fs path = some d)
    (missing : ¬holds → s.env.lookup fs path = none) : Runs (s.valueAt path) fs holds d "" fs := by
  refine Runs.get (a := settled (s.env.valueAt fs path)) (fun _ => rfl)
    (runs_settled (fun h => ?_) fun h => ?_)
  · exact s.env.valueAt_of_some fs path reads (found h)
  · exact ⟨_, s.env.valueAt_of_none fs path reads (missing h)⟩

/-- A variable alone is open to filters, and faults where it has no value. -/
theorem runs_ofVariable {value : Action Data} (h : Runs value fs holds d "" fs) :
    Runs (ofVariable value false none) fs holds (.open d) "" fs where
  ok hold before := by
    have tried : attempt value ⟨before, fs⟩ = (.ok (.ok d), ⟨before ++ "", fs⟩) := by
      rw [attempt, h.ok hold]
    unfold ofVariable
    rw [bind_of_ok tried]
    -- null is told apart, but only for the sake of a fallback
    cases d <;> rfl
  fault hold before := by
    obtain ⟨fault, page, he⟩ := h.fault hold before
    have tried : attempt value ⟨before, fs⟩ = (.ok (.error fault), page) := by
      rw [attempt, he]
    refine ⟨fault, page, ?_⟩
    unfold ofVariable
    rw [bind_of_ok tried]
    rfl

theorem runs_settle {base : Action Base} {filters : Data → Action Data}
    (h : Runs base fs holds (.open d) "" fs) (hf : holds → Runs (filters d) fs also e "" fs) :
    Runs (settle false base filters) fs (holds ∧ also) e "" fs := by
  unfold settle
  refine h.silent fun hold => ?_
  exact ((hf hold).bind fun _ => Runs.pure e fs).congr (by simp) (fun _ => rfl) (fun _ => rfl)

theorem runs_noFilters (d : Data) : Runs (applyFilters s [] d) fs True d "" fs := by
  rw [applyFilters]
  exact Runs.pure d fs

theorem runs_filtered {filters : List Call} (h : Runs (s.valueAt path) fs holds d "" fs)
    (noFallback : evalFallback s filters = none)
    (hf : holds → Runs (applyFilters s filters d) fs also e "" fs) :
    Runs (evalExpr s (.mk (.path path) false filters)) fs (holds ∧ also) e "" fs := by
  unfold evalExpr evalTerm
  rw [noFallback]
  exact runs_settle (runs_ofVariable h) hf

theorem runs_settle_alone {base : Action Base} (h : Runs base fs holds (.open d) "" fs) :
    Runs (settle false base (applyFilters s [])) fs holds d "" fs :=
  (runs_settle h fun _ => runs_noFilters d).congr (by simp) (fun _ => rfl) fun _ => rfl

theorem runs_path (h : Runs (s.valueAt path) fs holds d "" fs) :
    Runs (evalExpr s (.ofTerm (.path path))) fs holds d "" fs := by
  unfold Expr.ofTerm evalExpr evalTerm evalFallback
  exact runs_settle_alone (runs_ofVariable h)

theorem runs_variable (reads : ReadsAs path name rest) (found : s.env.lookup fs path = some d) :
    Runs (evalExpr s (.ofTerm (.path path))) fs True d "" fs :=
  runs_path (runs_valueAt reads (fun _ => found) fun h => absurd trivial h)

theorem runs_text (text : String) :
    Runs (evalExpr s (.ofTerm (.text text))) fs True (.string text) "" fs := by
  unfold Expr.ofTerm evalExpr evalTerm
  exact runs_settle_alone (Runs.pure (Base.open (.string text)) fs)

/-- A filter of strings gives a string for a string, and faults otherwise. -/
theorem runs_callFilter {name label text : String} {f : String → String}
    (known : Filter.named? s.env.types name = some (Filter.onText label f))
    (isText : holds → d = .string text) (noText : ¬holds → ∀ t, d ≠ .string t) :
    Runs (s.callFilter name d []) fs holds (.string (f text)) "" fs := by
  unfold Site.callFilter
  rw [known]
  refine Runs.wrapped _ (Runs.step (x := []) (Runs.pure [] fs) ?_)
  refine runs_settled (fun h => ?_) fun h => ?_
  · rw [isText h]
    rfl
  · cases d with
    | string t => exact absurd rfl (noText h t)
    | _ => exact ⟨_, rfl⟩

/-- One filter, without arguments. -/
theorem runs_applyFilter {name : String} (isCall : isMarker name = false)
    (h : Runs (s.callFilter name d []) fs holds e "" fs) :
    Runs (applyFilters s [.mk name []] d) fs holds e "" fs := by
  rw [applyFilters, if_neg (by rw [isCall]; exact Bool.false_ne_true), evalArgs]
  exact (h.silent fun _ => runs_noFilters e).congr (by simp) (fun _ => rfl) fun _ => rfl

/-- Whether two strings are the same. -/
theorem runs_eq {l r : Expr} {a b : String} (hl : Runs (evalExpr s l) fs True (.string a) "" fs)
    (hr : Runs (evalExpr s r) fs True (.string b) "" fs) :
    Runs (evalBool s (.ofTerm (.relation .eq l r))) fs True (a == b) "" fs := by
  unfold Expr.ofTerm evalBool
  refine hl.step (hr.step ?_)
  refine (Runs.pure _ fs).congr Iff.rfl (fun _ => ?_) fun _ => rfl
  show ((a == b) != false) = (a == b)
  cases a == b <;> rfl

end

end Schemata.Template
