import Mathlib.Data.List.Forall2
import Schemata.FilePath
import Schemata.Proofs.Outcome

/-!
# Absolute forms of paths

Either every path has an absolute form, and the forms are answered in order, or the first path that
has none decides (`absoluteAll_eq_ok_iff`, `absoluteAll_eq_error_iff`).
-/

namespace Schemata.FilePath

variable {directory : Except ReadFault String}

theorem absoluteAll_cons (directory : Except ReadFault String) (path : String)
    (rest : List String) : absoluteAll directory (path :: rest) = do
      let file ← absolute directory path
      return file :: (← absoluteAll directory rest) := by
  rw [absoluteAll, List.mapM_cons]
  rfl

theorem absoluteAll_eq_ok_iff {paths files : List String} :
    absoluteAll directory paths = .ok files ↔
      List.Forall₂ (fun path file => absolute directory path = .ok file) paths files := by
  induction paths generalizing files with
  | nil =>
    constructor
    · rintro ⟨⟩
      exact .nil
    · rintro ⟨⟩
      rfl
  | cons path rest ih =>
    simp only [absoluteAll_cons, Outcome.bind_eq_ok_iff, Outcome.pure_eq_ok_iff, ih]
    constructor
    · rintro ⟨file, hf, files, hr, rfl⟩
      exact .cons hf hr
    · rintro (_ | ⟨hf, hr⟩)
      exact ⟨_, hf, _, hr, rfl⟩

theorem absoluteAll_eq_error_iff {paths : List String} {fault : Fault} :
    absoluteAll directory paths = .error fault ↔
      ∃ before path after, paths = before ++ path :: after ∧
        (∀ earlier ∈ before, ∃ file, absolute directory earlier = .ok file) ∧
        absolute directory path = .error fault := by
  constructor
  · intro h
    induction paths with
    | nil => cases h
    | cons path rest ih =>
      rw [absoluteAll_cons] at h
      cases hp : absolute directory path with
      | error fault' =>
        rw [hp] at h
        cases h
        exact ⟨[], path, rest, rfl, by simp, hp⟩
      | ok file =>
        cases hr : absoluteAll directory rest with
        | ok files =>
          rw [hp, hr] at h
          cases h
        | error fault' =>
          rw [hp, hr] at h
          cases h
          obtain ⟨before, next, after, rfl, hb, hn⟩ := ih hr
          refine ⟨path :: before, next, after, rfl, ?_, hn⟩
          rw [List.forall_mem_cons]
          exact ⟨⟨file, hp⟩, hb⟩
  · rintro ⟨before, path, after, rfl, hb, hp⟩
    induction before with
    | nil =>
      rw [List.nil_append, absoluteAll_cons, hp]
      rfl
    | cons first before ih =>
      rw [List.forall_mem_cons] at hb
      obtain ⟨⟨file, hf⟩, hb⟩ := hb
      rw [List.cons_append, absoluteAll_cons, hf, ih hb]
      rfl

/-- All paths have absolute forms exactly if each has one. -/
theorem exists_absoluteAll_iff {paths : List String} :
    (∃ files, absoluteAll directory paths = .ok files) ↔
      ∀ path ∈ paths, ∃ file, absolute directory path = .ok file := by
  constructor
  · rintro ⟨files, h⟩
    rw [absoluteAll_eq_ok_iff] at h
    induction h with
    | nil => simp
    | cons hf _ ih => exact List.forall_mem_cons.mpr ⟨⟨_, hf⟩, ih⟩
  · intro h
    cases ha : absoluteAll directory paths with
    | ok files => exact ⟨files, rfl⟩
    | error fault =>
      obtain ⟨before, path, after, rfl, -, hp⟩ := absoluteAll_eq_error_iff.mp ha
      obtain ⟨file, hf⟩ := h path (by simp)
      rw [hp] at hf
      cases hf

end Schemata.FilePath
