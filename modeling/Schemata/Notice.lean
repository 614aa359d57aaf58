import Schemata.Catalog
import Schemata.Report

/-!
# Notices

A `Run` tells notices on the way to its outcome. They are kept when the run fails, so a file that
was skipped is told of also when a later one stops the run.
-/

namespace Schemata

/-- A file that was skipped, with its text. -/
structure Diagnostic where
  error : DecodeError
  source : String
deriving Repr

/-- The error as it is shown to the user. -/
def Diagnostic.report (d : Diagnostic) : String := d.error.report d.source

/-- What a run tells on the way. -/
inductive Notice where
  | noInstalledTemplate
  | installedTemplate (path : String)
  | decodedType (name kind : String)
  | decodedFile (path : String) (types : Nat)
  | skippedFile (diagnostic : Diagnostic)
  | redefined (redefinition : Redefinition)
  | loaded (types skipped : Nat)
  | rendering (template : String) (types : Nat)
  | generated (octets : Nat)
  | someSkipped (files : Nat)
deriving Repr

/-- The file that a notice says was skipped. -/
def Notice.diagnostic? : Notice → Option Diagnostic
  | .skippedFile d => some d
  | _ => none

/-- What came of a run, and what it told on the way. -/
structure Run (ε α : Type) where
  notices : List Notice := []
  outcome : Except ε α

namespace Run

instance : Monad (Run ε) where
  pure a := { outcome := .ok a }
  bind r f :=
    match r.outcome with
    | .error e => { notices := r.notices, outcome := .error e }
    | .ok a =>
      let next := f a
      { notices := r.notices ++ next.notices, outcome := next.outcome }

def ofExcept (outcome : Except ε α) : Run ε α := { outcome }

def tell (notices : List Notice) : Run ε Unit := { notices, outcome := .ok () }

def mapError (f : ε → ε') (r : Run ε α) : Run ε' α :=
  { notices := r.notices, outcome := r.outcome.mapError f }

/-- The files that the run skipped, in order. -/
def reported (r : Run ε α) : List Diagnostic := r.notices.filterMap Notice.diagnostic?

@[simp] theorem notices_pure (a : α) : (pure a : Run ε α).notices = [] := rfl

@[simp] theorem outcome_pure (a : α) : (pure a : Run ε α).outcome = .ok a := rfl

@[simp] theorem notices_tell (notices : List Notice) :
    (tell notices : Run ε Unit).notices = notices := rfl

theorem notices_bind_ok {r : Run ε α} {a : α} (h : r.outcome = .ok a) (f : α → Run ε β) :
    (r >>= f).notices = r.notices ++ (f a).notices := by
  simp [bind, h]

theorem outcome_bind_ok {r : Run ε α} {a : α} (h : r.outcome = .ok a) (f : α → Run ε β) :
    (r >>= f).outcome = (f a).outcome := by
  simp [bind, h]

theorem bind_error {r : Run ε α} {e : ε} (h : r.outcome = .error e) (f : α → Run ε β) :
    r >>= f = { notices := r.notices, outcome := .error e } := by
  simp [bind, h]

instance : LawfulMonad (Run ε) := LawfulMonad.mk' _
  (by
    intro α ⟨notices, outcome⟩
    cases outcome <;> simp [Functor.map])
  (by intros; rfl)
  (by
    intro α β γ ⟨notices, outcome⟩ f g
    cases outcome with
    | error e => rfl
    | ok a =>
      simp only [bind]
      cases (f a).outcome <;> simp)

end Run

end Schemata
