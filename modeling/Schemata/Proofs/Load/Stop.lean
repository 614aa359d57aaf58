import Schemata.Proofs.Load.Collision
import Schemata.Proofs.Load.Override

/-!
# Where a load stops

A load goes through its files in order until one of them stops it (`StopsAt`): a file that cannot be
read, or, where collisions are refused, one that declares a name that is declared before it.
`GoesThrough` is said of the files before that one, or of all files if there is none; it is a matter
of the disk alone, and `Loaded.addFiles_or_stops` is that the load follows it.
-/

namespace Schemata

/-- Every file can be read, and where collisions are refused, no name is declared by two that
decode. -/
def Uneventful (disk : Disk) (accumulation : Accumulation) (paths : List String) : Prop :=
  (∀ path ∈ paths, Readable disk path) ∧
    (accumulation = .merge .error → (declaredAll disk paths).Pairwise Apart)

/-- A file stops a load that has gone through others. -/
inductive StopsAt (disk : Disk) (accumulation : Accumulation) (before : List String)
    (path : String) : LoadError → Prop where
  | unreadable {fault : ReadFault} (h : disk path = .error fault) :
      StopsAt disk accumulation before path (.unreadable path fault)
  | collision {d : DuplicateType} (refused : accumulation = .merge .error)
      (h : TroubleAt disk before path (.duplicate d)) :
      StopsAt disk accumulation before path (.duplicate d)

/-- A load goes through the files `gone`, and then there are no more or the next one stops it. -/
def GoesThrough (disk : Disk) (accumulation : Accumulation) (paths gone : List String) : Prop :=
  Uneventful disk accumulation gone ∧
    (gone = paths ∨ ∃ path after e, paths = gone ++ path :: after ∧
      StopsAt disk accumulation gone path e)

variable {disk : Disk} {accumulation : Accumulation} {before paths : List String} {path : String}
  {e : LoadError}

theorem uneventful_error_iff : Uneventful disk (.merge .error) paths ↔ Smooth disk paths := by
  simp [Uneventful, Smooth]

theorem uneventful_iff_of_ne (h : accumulation ≠ .merge .error) :
    Uneventful disk accumulation paths ↔ ∀ path ∈ paths, Readable disk path := by
  simp [Uneventful, h]

theorem TroubleAt.stopsAt (h : TroubleAt disk before path e) :
    StopsAt disk (.merge .error) before path e := by
  cases h with
  | unreadable hf => exact .unreadable hf
  | collision hc split first he hd known =>
    exact .collision rfl (.collision hc split first he hd known)

theorem not_uneventful_of_stopsAt (h : StopsAt disk accumulation before path e)
    (after : List String) : ¬ Uneventful disk accumulation (before ++ path :: after) := by
  intro hu
  cases h with
  | unreadable hf =>
    obtain ⟨octets, ho⟩ := hu.1 path (by simp)
    rw [hf] at ho
    cases ho
  | collision refused trouble =>
    subst refused
    exact not_smooth_of_trouble trouble after (uneventful_error_iff.mp hu)

theorem GoesThrough.isPrefix {gone : List String} (h : GoesThrough disk accumulation paths gone) :
    gone <+: paths := by
  rcases h.2 with rfl | ⟨path, after, e, hp, -⟩
  · exact List.prefix_refl gone
  · exact ⟨path :: after, hp.symm⟩

/-- A load goes no further than to the file that stops it. -/
theorem GoesThrough.eq_of_isPrefix {gone longer : List String}
    (h : GoesThrough disk accumulation paths gone) (hg : gone <+: longer) (hl : longer <+: paths)
    (hu : Uneventful disk accumulation longer) : longer = gone := by
  rcases h.2 with rfl | ⟨path, after, e, hp, stops⟩
  · exact hl.eq_of_length_le hg.length_le
  · obtain ⟨more, rfl⟩ := hg
    obtain ⟨rest, hr⟩ := hl
    cases more with
    | nil => simp
    | cons next more =>
      have same : path :: after = next :: more ++ rest := by
        rw [hp, List.append_assoc] at hr
        exact (List.append_cancel_left hr).symm
      obtain ⟨rfl, -⟩ := List.cons.inj same
      exact absurd hu (not_uneventful_of_stopsAt stops more)

/-- It is settled which files a load goes through. -/
theorem GoesThrough.unique {gone other : List String} (h : GoesThrough disk accumulation paths gone)
    (ho : GoesThrough disk accumulation paths other) : other = gone := by
  rcases List.prefix_or_prefix_of_prefix h.isPrefix ho.isPrefix with hg | hg
  · exact h.eq_of_isPrefix hg ho.isPrefix ho.1
  · exact (ho.eq_of_isPrefix hg h.isPrefix h.1).symm

/-! ## The load follows -/

theorem never_stops (h : accumulation ≠ .merge .error) (c d : Catalog) :
    (c.absorb d accumulation).stopped = none := by
  match accumulation with
  | .replace => rfl
  | .merge .override => exact override_never_stops c d
  | .merge .error => exact absurd rfl h

namespace Loaded

/-- After files that are gone through, one more is gone through too or stops the load. -/
theorem addFile_or_stops {loaded : Loaded} (hu : Uneventful disk accumulation before)
    (h : (addFiles disk accumulation {} before).outcome = .ok loaded) (path : String) :
    (∃ after, (loaded.addFile disk accumulation path).outcome = .ok after ∧
      Uneventful disk accumulation (before ++ [path])) ∨
    ∃ e, StopsAt disk accumulation before path e ∧
      (loaded.addFile disk accumulation path).outcome = .error e := by
  by_cases refused : accumulation = .merge .error
  · subst refused
    have smooth := uneventful_error_iff.mp hu
    have entries : loaded.catalog.entries = definitions disk before := by
      rcases load_error_cases disk before with ⟨other, ho, -, entries⟩ | ⟨e, -, trouble⟩
      · rw [outcome_load, h] at ho
        cases ho
        exact entries
      · exact absurd smooth (not_smooth_of_firstTrouble trouble)
    rcases addFile_cases smooth entries path with ⟨after, ho, hs, -⟩ | ⟨e, trouble⟩
    · exact .inl ⟨after, ho, uneventful_error_iff.mpr hs⟩
    · exact .inr ⟨e, trouble.stopsAt, addFile_of_trouble smooth entries trouble⟩
  · cases hd : disk path with
    | error fault => exact .inr ⟨_, .unreadable hd, addFile_of_error hd⟩
    | ok octets =>
      have readable : Readable disk path := ⟨octets, hd⟩
      have uneventful : Uneventful disk accumulation (before ++ [path]) := by
        rw [uneventful_iff_of_ne refused] at hu ⊢
        rw [List.forall_mem_append]
        exact ⟨hu, by simpa using readable⟩
      cases hc : declared? disk path with
      | none =>
        obtain ⟨after, ho, -⟩ : ∃ after, (loaded.addFile disk accumulation path).outcome =
            .ok after ∧ after.catalog = loaded.catalog := addFile_of_undeclared loaded readable hc
        exact .inl ⟨after, ho, uneventful⟩
      | some c =>
        refine .inl ⟨{ loaded with catalog := (loaded.catalog.absorb c accumulation).catalog }, ?_,
          uneventful⟩
        rw [addFile_of_declared hc, never_stops refused]

/-- The files are gone through to the end, or the load gets to one that stops it. -/
theorem addFiles_or_stops (disk : Disk) (accumulation : Accumulation) (paths : List String) :
    (∃ loaded, (addFiles disk accumulation {} paths).outcome = .ok loaded ∧
      Uneventful disk accumulation paths) ∨
    ∃ before path after between e, paths = before ++ path :: after ∧
      Uneventful disk accumulation before ∧ StopsAt disk accumulation before path e ∧
      (addFiles disk accumulation {} before).outcome = .ok between ∧
      (between.addFile disk accumulation path).outcome = .error e := by
  -- what becomes of a file depends on all that come before it, so the last one is taken off
  induction paths using List.reverseRecOn with
  | nil => exact .inl ⟨{}, rfl, by simp [Uneventful, declaredAll]⟩
  | append_singleton paths path ih =>
    rcases ih with ⟨loaded, ho, hu⟩ | ⟨before, at_, after, between, e, rfl, hu, stops, ho, he⟩
    · rcases addFile_or_stops hu ho path with ⟨after, ha, hu'⟩ | ⟨e, stops, he⟩
      · refine .inl ⟨after, ?_, hu'⟩
        rw [addFiles_concat, Run.outcome_bind_ok ho, ha]
      · exact .inr ⟨paths, path, [], loaded, e, rfl, hu, stops, ho, he⟩
    · exact .inr ⟨before, at_, after ++ [path], between, e, by simp, hu, stops, ho, he⟩

end Loaded

theorem exists_goesThrough (disk : Disk) (accumulation : Accumulation) (paths : List String) :
    ∃ gone, GoesThrough disk accumulation paths gone := by
  rcases Loaded.addFiles_or_stops disk accumulation paths with
    ⟨loaded, -, hu⟩ | ⟨before, path, after, between, e, hp, hu, stops, -, -⟩
  · exact ⟨paths, hu, .inl rfl⟩
  · exact ⟨before, hu, .inr ⟨path, after, e, hp, stops⟩⟩

end Schemata
