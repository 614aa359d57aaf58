import Schemata.Template.Eval

/-!
# What actions come to

`Runs a fs holds x text gs`: begun with the frames `fs` on a page that says anything, the action `a`
gives `x`, writes `text` and leaves the frames `gs` if `holds`, and faults if not. There is a rule
for each way to put actions together, so that a whole rendering is run from its parts.
-/

namespace Schemata.Template.Action

variable {α β : Type}

/-- What comes of an action, whatever the page says before it. -/
structure Runs (a : Action α) (fs : List Frame) (holds : Prop) (x : α) (text : String)
    (gs : List Frame) : Prop where
  ok : holds → ∀ before, a ⟨before, fs⟩ = (.ok x, ⟨before ++ text, gs⟩)
  fault : ¬holds → ∀ before, ∃ fault page, a ⟨before, fs⟩ = (.error fault, page)

theorem bind_apply (a : Action α) (f : α → Action β) (page : Page) :
    (a >>= f) page =
      match a page with
      | (.ok x, after) => f x after
      | (.error fault, after) => (.error fault, after) := by
  show (ExceptT.bind a f) page = _
  simp only [ExceptT.bind, ExceptT.mk, bind, StateT.bind]
  rcases a page with ⟨_ | _, _⟩ <;> rfl

/-- A bind is the second action on what the first one leaves. -/
theorem bind_of_ok {a : Action α} {f : α → Action β} {page after : Page} {x : α}
    (h : a page = (.ok x, after)) : (a >>= f) page = f x after := by
  rw [bind_apply, h]

theorem bind_of_error {a : Action α} {f : α → Action β} {page after : Page} {fault : Fault}
    (h : a page = (.error fault, after)) : (a >>= f) page = (.error fault, after) := by
  rw [bind_apply, h]

namespace Runs

variable {a : Action α} {f : α → Action β} {fs gs hs : List Frame} {holds also : Prop} {x : α}
  {y : β} {s t : String}

theorem pure (x : α) (fs : List Frame) : Runs (pure x : Action α) fs True x "" fs where
  ok _ _ := by rw [String.append_empty]; rfl
  fault h := absurd trivial h

/-- The second action is run where the first one does not fault. -/
theorem bind (ha : Runs a fs holds x s gs) (hf : holds → Runs (f x) gs also y t hs) :
    Runs (a >>= f) fs (holds ∧ also) y (s ++ t) hs where
  ok h before := by
    rw [bind_of_ok (ha.ok h.1 before), (hf h.1).ok h.2, String.append_assoc]
  fault h before := by
    by_cases hold : holds
    · rw [bind_of_ok (ha.ok hold before)]
      exact (hf hold).fault (fun h' => h ⟨hold, h'⟩) _
    · obtain ⟨e, page, he⟩ := ha.fault hold before
      exact ⟨e, page, bind_of_error he⟩

/-- The same run in other words. -/
theorem congr {x' : α} (h : Runs a fs holds x s gs) (hiff : holds ↔ also)
    (hx : also → x = x') (hs : also → s = t) : Runs a fs also x' t gs where
  ok hold before := by rw [h.ok (hiff.2 hold), hx hold, hs hold]
  fault hold before := h.fault (fun h' => hold (hiff.1 h')) before

/-- `bind` where the first action writes nothing. -/
theorem silent (ha : Runs a fs holds x "" gs) (hf : holds → Runs (f x) gs also y t hs) :
    Runs (a >>= f) fs (holds ∧ also) y t hs :=
  (ha.bind hf).congr Iff.rfl (fun _ => rfl) fun _ => String.empty_append

/-- `bind` where the first action writes nothing and does not fault. -/
theorem step (ha : Runs a fs True x "" gs) (hf : Runs (f x) gs also y t hs) :
    Runs (a >>= f) fs also y t hs :=
  (ha.silent fun _ => hf).congr (by simp) (fun _ => rfl) fun _ => rfl

/-- What is done about the page is the same whatever it says. -/
theorem get {f : Page → Action α} (same : ∀ before, f ⟨before, fs⟩ = a)
    (h : Runs a fs holds x s gs) :
    Runs (MonadState.get >>= f : Action α) fs holds x s gs where
  ok hold before := by
    show f ⟨before, fs⟩ ⟨before, fs⟩ = _
    rw [same, h.ok hold]
  fault hold before := by
    show ∃ fault page, f ⟨before, fs⟩ ⟨before, fs⟩ = _
    rw [same]
    exact h.fault hold before

theorem wrapped (wrap : Fault → Fault) (h : Runs a fs holds x s gs) :
    Runs (wrapped wrap a) fs holds x s gs where
  ok hold before := by
    show ((a _).1.mapError wrap, (a _).2) = _
    rw [h.ok hold]
    rfl
  fault hold before := by
    obtain ⟨e, page, he⟩ := h.fault hold before
    exact ⟨wrap e, page, by show ((a _).1.mapError wrap, (a _).2) = _; rw [he]; rfl⟩

end Runs

/-! ## Single actions -/

/-- What the innermost of the frames tells about the round of a loop. -/
def signalOf (fs : List Frame) : Signal := Page.signal { frames := fs }

section
variable {fs : List Frame}

theorem runs_settled {outcome : Except Fault α} {holds : Prop} {x : α}
    (ok : holds → outcome = .ok x) (error : ¬holds → ∃ fault, outcome = .error fault) :
    Runs (settled outcome) fs holds x "" fs where
  ok h before := by
    rw [ok h, String.append_empty]
    rfl
  fault h _ := by
    obtain ⟨fault, rfl⟩ := error h
    exact ⟨fault, _, rfl⟩

theorem runs_settled_ok {outcome : Except Fault α} {x : α} (h : outcome = .ok x) :
    Runs (settled outcome) fs True x "" fs :=
  runs_settled (fun _ => h) fun h => absurd trivial h

theorem runs_write (s : String) : Runs (write s) fs True () s fs where
  ok _ _ := rfl
  fault h := absurd trivial h

theorem runs_push (f : Frame) : Runs (modify (·.push f)) fs True () "" (f :: fs) where
  ok _ _ := by rw [String.append_empty]; rfl
  fault h := absurd trivial h

theorem runs_pop (f : Frame) : Runs (modify Page.pop) (f :: fs) True () "" fs where
  ok _ _ := by rw [String.append_empty]; rfl
  fault h := absurd trivial h

theorem runs_inFrame {a : Action Unit} {f f' : Frame} {holds : Prop} {s : String}
    (h : Runs a (f :: fs) holds () s (f' :: fs)) : Runs (inFrame f a) fs holds () s fs :=
  ((runs_push f).bind fun _ => h.bind fun _ => runs_pop f').congr (by simp) (fun _ => rfl)
    (by simp)

end

end Schemata.Template.Action
