import Mathlib.Data.List.Forall2
import Schemata.Notice

/-!
# Outcomes

How a computation that may fail ends. The lemmas take an outcome of a sequence of steps apart
into the outcomes of the steps, for `Except` and for the outcome of a `Run`.
-/

namespace Schemata.Outcome

variable {ε ε' α β : Type}

theorem bind_eq_ok_iff {x : Except ε α} {f : α → Except ε β} {b : β} :
    x >>= f = .ok b ↔ ∃ a, x = .ok a ∧ f a = .ok b := by
  cases x <;> simp [bind, Except.bind]

theorem map_eq_ok_iff {f : α → β} {x : Except ε α} {b : β} :
    f <$> x = .ok b ↔ ∃ a, x = .ok a ∧ f a = b := by
  cases x <;> simp [Functor.map, Except.map]

theorem pure_eq_ok_iff {a b : α} : (pure a : Except ε α) = .ok b ↔ a = b := by
  simp [pure, Except.pure]

theorem mapError_eq_ok_iff {f : ε → ε'} {x : Except ε α} {a : α} :
    x.mapError f = .ok a ↔ x = .ok a := by
  cases x with
  | error e => exact ⟨nofun, nofun⟩
  | ok b =>
    constructor
    · rintro ⟨⟩
      rfl
    · rintro ⟨⟩
      rfl

theorem toOption_eq_some_iff {x : Except ε α} {a : α} : x.toOption = some a ↔ x = .ok a := by
  cases x <;> simp [Except.toOption]

/-- The error that a computation ends with, if it fails. -/
def error? : Except ε α → Option ε
  | .ok _ => none
  | .error e => some e

theorem error?_eq_some_iff {x : Except ε α} {e : ε} : error? x = some e ↔ x = .error e := by
  cases x <;> simp [error?]

theorem error?_eq_none_iff {x : Except ε α} : error? x = none ↔ ∃ a, x = .ok a := by
  cases x <;> simp [error?]

theorem error?_map (f : α → β) (x : Except ε α) : error? (f <$> x) = error? x := by
  cases x <;> rfl

theorem error?_mapError (f : ε → ε') (x : Except ε α) :
    error? (x.mapError f) = (error? x).map f := by
  cases x <;> rfl

theorem error?_bind_pure (x : Except ε α) (f : α → β) :
    error? (x >>= fun a => pure (f a)) = error? x := by
  cases x <;> rfl

/-- A computation in two steps fails with the error of the first that fails. -/
theorem error?_bind {x : Except ε α} {f : α → Except ε β} {e : Option ε}
    (h : ∀ a, x = .ok a → error? (f a) = e) : error? (x >>= f) = (error? x).or e := by
  cases x with
  | error => rfl
  | ok a => exact h a rfl

/-- In lists that correspond element by element, as a list and the outcomes of a run over it do,
each element has a counterpart. -/
theorem exists_of_forall₂ {R : α → β → Prop} {xs : List α} {ys : List β}
    (h : List.Forall₂ R xs ys) : ∀ x ∈ xs, ∃ y ∈ ys, R x y := by
  induction h with
  | nil => exact nofun
  | cons first _ ih =>
    refine List.forall_mem_cons.mpr ⟨⟨_, List.mem_cons_self, first⟩, fun x hx => ?_⟩
    obtain ⟨y, hy, related⟩ := ih x hx
    exact ⟨y, List.mem_cons_of_mem _ hy, related⟩

end Schemata.Outcome

namespace Schemata.Run

variable {ε α β : Type}

theorem outcome_bind (r : Run ε α) (f : α → Run ε β) :
    (r >>= f).outcome = r.outcome >>= fun a => (f a).outcome := by
  cases h : r.outcome with
  | error e => rw [bind_error h]; rfl
  | ok a => rw [outcome_bind_ok h]; rfl

@[simp] theorem outcome_ofExcept (x : Except ε α) : (ofExcept x).outcome = x := rfl

end Schemata.Run
