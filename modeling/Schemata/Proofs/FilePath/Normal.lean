import Schemata.Proofs.FilePath

/-!
# Normal forms of paths

A path in normal form starts at a root and goes on by parts that lead somewhere, with one slash
between them and maybe one at the end. Absolute forms are normal where the current directory is,
and a normal path is its own absolute form in every directory (`normal_iff`). So making paths
absolute once more changes nothing (`absoluteAll_normal`).
-/

namespace Schemata.FilePath

/-- A part by which a path goes on: it leads somewhere, and is not cut by a slash. -/
structure IsStep (part : List Char) : Prop where
  leads : leads part
  whole : '/' ∉ part

/-- Absolute paths in normal form. -/
inductive Normal : List Char → Prop where
  | root : Normal ['/']
  /-- Two slashes at the front are kept, as they may mean another root. -/
  | otherRoot : Normal ['/', '/']
  | step {path part : List Char} (h : Normal path) (isStep : IsStep part) : Normal (push path part)
  | slash {path : List Char} (h : Normal path) : Normal (push path [])

/-- Whether a path ends in a slash. -/
def endsInSlash (path : List Char) : Bool := path.getLast? == some '/'

variable {path part directory : List Char}

/-! ## Parts -/

theorem pieces_append_slash (front rest : List Char) :
    pieces (front ++ '/' :: rest) = pieces front ++ pieces rest := by
  fun_induction pieces front with
  | case1 => rfl
  | case2 front ih => exact congrArg ([] :: ·) ih
  | case3 c front _ none => exact absurd none (pieces_ne_nil front)
  | case4 c front notSlash piece more cut ih =>
    have later : pieces (front ++ '/' :: rest) = piece :: (more ++ pieces rest) := by
      rw [ih, cut, List.cons_append]
    rw [List.cons_append, pieces, later]
    · rfl
    · exact notSlash

theorem pieces_of_notMem (whole : '/' ∉ part) : pieces part = [part] := by
  induction part with
  | nil => rfl
  | cons c rest ih =>
    rw [List.mem_cons, not_or] at whole
    rw [pieces, ih whole.2]
    exact fun same => whole.1 same.symm

theorem parts_nil : parts [] = [] := rfl

theorem IsStep.parts_eq (h : IsStep part) : parts part = [part] := by
  rw [parts, pieces_of_notMem h.whole]
  exact List.filter_cons_of_pos h.leads

theorem parts_append_slash (front rest : List Char) :
    parts (front ++ '/' :: rest) = parts front ++ parts rest := by
  rw [parts, pieces_append_slash, List.filter_append, parts, parts]

theorem isStep_of_mem_parts (h : part ∈ parts path) : IsStep part where
  leads := leads_of_mem_parts h
  whole := slash_not_mem_of_mem_pieces (List.mem_filter.mp h).1

/-! ## Putting parts behind a path -/

theorem push_of_endsInSlash (h : endsInSlash path) (part : List Char) :
    push path part = path ++ part := by
  unfold push
  rw [endsInSlash] at h
  simp [h]

theorem push_of_not_endsInSlash (nonempty : path ≠ []) (h : ¬ endsInSlash path)
    (part : List Char) : push path part = path ++ '/' :: part := by
  unfold push
  rw [endsInSlash, Bool.not_eq_true] at h
  simp [h, nonempty]

theorem exists_of_endsInSlash (h : endsInSlash path) : ∃ front, path = front ++ ['/'] := by
  rw [endsInSlash, beq_iff_eq] at h
  exact List.getLast?_eq_some_iff.mp h

theorem parts_push (path part : List Char) : parts (push path part) = parts path ++ parts part := by
  by_cases empty : path = []
  · subst empty
    rfl
  by_cases h : endsInSlash path
  · obtain ⟨front, rfl⟩ := exists_of_endsInSlash h
    rw [push_of_endsInSlash h, List.append_assoc, List.singleton_append, parts_append_slash,
      parts_append_slash, parts_nil, List.append_nil]
  · rw [push_of_not_endsInSlash empty h, parts_append_slash]

theorem endsInSlash_push_nil (nonempty : path ≠ []) : endsInSlash (push path []) := by
  by_cases h : endsInSlash path
  · rwa [push_of_endsInSlash h, List.append_nil]
  · rw [push_of_not_endsInSlash nonempty h, endsInSlash]
    simp

theorem IsStep.ne_nil (h : IsStep part) : part ≠ [] := by
  rintro rfl
  exact absurd h.leads (by decide)

theorem IsStep.not_endsInSlash_push (h : IsStep part) (path : List Char) :
    ¬ endsInSlash (push path part) := by
  have last : ¬ endsInSlash part := by
    intro ends
    obtain ⟨front, rfl⟩ := exists_of_endsInSlash ends
    exact h.whole (by simp)
  obtain ⟨c, rest, rfl⟩ := List.exists_cons_of_ne_nil h.ne_nil
  unfold push
  split
  · rwa [endsInSlash, List.getLast?_append_of_ne_nil _ h.ne_nil]
  · rwa [endsInSlash, List.getLast?_append_of_ne_nil _ (List.cons_ne_nil _ _),
      List.getLast?_cons_cons]

/-- A slash at the end makes no difference to what comes behind it. -/
theorem push_push_nil (path part : List Char) : push (push path []) part = push path part := by
  by_cases empty : path = []
  · subst empty
    rfl
  by_cases h : endsInSlash path
  · rw [push_of_endsInSlash h, List.append_nil]
  · rw [push_of_endsInSlash (endsInSlash_push_nil empty), push_of_not_endsInSlash empty h,
      push_of_not_endsInSlash empty h, List.append_assoc, List.singleton_append]

theorem exists_push_eq_append (nonempty : path ≠ []) (part : List Char) :
    ∃ rest, push path part = path ++ rest := by
  by_cases h : endsInSlash path
  · exact ⟨_, push_of_endsInSlash h part⟩
  · exact ⟨_, push_of_not_endsInSlash nonempty h part⟩

/-! ## What a path starts from -/

theorem exists_of_isAbsolute (h : isAbsolute path) : ∃ rest, path = '/' :: rest := by
  rwa [isAbsolute, beq_iff_eq, List.head?_eq_some_iff] at h

theorem ne_nil_of_isAbsolute (h : isAbsolute path) : path ≠ [] := by
  rintro rfl
  cases h

theorem base_slash_of_ne {c : Char} (h : c ≠ '/') (rest : List Char) :
    base directory ('/' :: c :: rest) = ['/'] := by
  simp [base, h]

theorem base_slashes_of_ne {c : Char} (h : c ≠ '/') (rest : List Char) :
    base directory ('/' :: '/' :: c :: rest) = ['/', '/'] := by
  simp [base, h]

/-- Only the slashes at the front count, and no part that is put behind a path adds to them. -/
theorem base_push (absolute : isAbsolute path) (whole : '/' ∉ part) :
    base directory (push path part) = base directory path := by
  have opens {c : Char} {rest : List Char} (h : part = c :: rest) : c ≠ '/' := by
    rintro rfl
    exact whole (h ▸ List.mem_cons_self)
  obtain ⟨rest, rfl⟩ := exists_of_isAbsolute absolute
  obtain ⟨more, pushed⟩ := exists_push_eq_append (List.cons_ne_nil '/' rest) part
  rcases rest with _ | ⟨c, rest⟩
  · show base directory ('/' :: part) = ['/']
    cases h : part with
    | nil => rfl
    | cons c rest => exact base_slash_of_ne (opens h) rest
  by_cases hc : c = '/'
  · subst hc
    rcases rest with _ | ⟨d, rest⟩
    · show base directory ('/' :: '/' :: part) = ['/', '/']
      cases h : part with
      | nil => rfl
      | cons c rest => exact base_slashes_of_ne (opens h) rest
    · rw [pushed]
      by_cases hd : d = '/'
      · subst hd
        rfl
      · exact (base_slashes_of_ne hd _).trans (base_slashes_of_ne hd _).symm
  · rw [pushed]
    exact (base_slash_of_ne hc _).trans (base_slash_of_ne hc _).symm

/-- A path from a root needs no directory. -/
theorem base_of_isAbsolute (absolute : isAbsolute path) (directory elsewhere : List Char) :
    base directory path = base elsewhere path := by
  obtain ⟨rest, rfl⟩ := exists_of_isAbsolute absolute
  unfold base
  split
  · rfl
  · rfl
  · rfl
  · next noSlash => exact absurd rfl (noSlash rest)

theorem parts_base (directory path : List Char) :
    parts (base directory path) = if isAbsolute path then [] else parts directory := by
  unfold base
  split
  · rfl
  · rfl
  · rfl
  · next noSlash =>
    have relative : ¬ isAbsolute path := by
      intro absolute
      obtain ⟨rest, rfl⟩ := exists_of_isAbsolute absolute
      exact noSlash rest rfl
    rw [if_neg relative]

/-! ## Absolute forms -/

theorem isAbsolute_push (absolute : isAbsolute path) (part : List Char) :
    isAbsolute (push path part) := by
  have nonempty := ne_nil_of_isAbsolute absolute
  obtain ⟨more, pushed⟩ := exists_push_eq_append nonempty part
  rw [isAbsolute] at absolute ⊢
  rw [pushed, List.head?_append_of_ne_nil _ nonempty]
  exact absolute

theorem Normal.isAbsolute (h : Normal path) : isAbsolute path := by
  induction h with
  | root => rfl
  | otherRoot => rfl
  | step _ _ ih => exact isAbsolute_push ih _
  | slash _ ih => exact isAbsolute_push ih _

/-- A path that goes on by a part goes on by it in its absolute form. -/
theorem absoluteChars_push_of_isStep (absolute : FilePath.isAbsolute path) (h : IsStep part) :
    absoluteChars directory (push path part) = push (absoluteChars directory path) part := by
  have parts : parts (push path part) = parts path ++ [part] := by
    rw [parts_push, h.parts_eq]
  have open' : ¬ endsInSlash (push path part) := h.not_endsInSlash_push path
  rw [endsInSlash] at open'
  simp only [absoluteChars, parts, base_push absolute h.whole, List.foldl_append, if_neg open']
  split
  · exact (push_push_nil _ _).symm
  · rfl

theorem absoluteChars_push_nil (absolute : FilePath.isAbsolute path) :
    absoluteChars directory (push path []) = push (absoluteChars directory path) [] := by
  have nonempty := ne_nil_of_isAbsolute absolute
  have closed : endsInSlash (push path []) := endsInSlash_push_nil nonempty
  rw [endsInSlash] at closed
  simp only [absoluteChars, parts_push, parts_nil, List.append_nil,
    base_push absolute List.not_mem_nil, if_pos closed]
  split
  · exact (push_push_nil _ _).symm
  · rfl

/-- A normal path is its own absolute form. -/
theorem Normal.absoluteChars_eq (h : Normal path) : absoluteChars directory path = path := by
  induction h with
  | root => rfl
  | otherRoot => rfl
  | step before isStep ih => rw [absoluteChars_push_of_isStep before.isAbsolute isStep, ih]
  | slash before ih => rw [absoluteChars_push_nil before.isAbsolute, ih]

theorem Normal.foldl_push {steps : List (List Char)} (h : Normal path)
    (each : ∀ part ∈ steps, IsStep part) : Normal (steps.foldl push path) := by
  induction steps generalizing path with
  | nil => exact h
  | cons part rest ih =>
    rw [List.forall_mem_cons] at each
    exact ih (h.step each.1) each.2

theorem Normal.foldl_push_base (h : Normal directory) (path : List Char) :
    Normal ((parts path).foldl push (base directory path)) := by
  have start : Normal (base directory path) := by
    unfold base
    split
    · exact .root
    · exact .otherRoot
    · exact .root
    · exact h
  exact start.foldl_push fun _ => isStep_of_mem_parts

/-- In a normal directory absolute forms are normal. -/
theorem Normal.absoluteChars (h : Normal directory) (path : List Char) :
    Normal (absoluteChars directory path) := by
  have whole := h.foldl_push_base path
  unfold FilePath.absoluteChars
  simp only
  split
  · exact whole.slash
  · exact whole

/-- A slash at the end is kept. -/
theorem Normal.endsInSlash_absoluteChars (h : Normal directory) (closed : endsInSlash path) :
    endsInSlash (FilePath.absoluteChars directory path) := by
  have whole := h.foldl_push_base path
  rw [endsInSlash] at closed
  unfold FilePath.absoluteChars
  simp only [if_pos closed]
  exact endsInSlash_push_nil (ne_nil_of_isAbsolute whole.isAbsolute)

/-- **The normal paths are those that are their own absolute form in every directory.** -/
theorem normal_iff : Normal path ↔ ∀ directory, absoluteChars directory path = path := by
  constructor
  · exact fun h directory => h.absoluteChars_eq
  · intro h
    rw [← h ['/']]
    exact Normal.root.absoluteChars path

theorem parts_foldl_push {steps : List (List Char)} (each : ∀ part ∈ steps, IsStep part) :
    parts (steps.foldl push path) = parts path ++ steps := by
  induction steps generalizing path with
  | nil => exact (List.append_nil _).symm
  | cons part rest ih =>
    rw [List.forall_mem_cons] at each
    rw [List.foldl_cons, ih each.2, parts_push, each.1.parts_eq, List.append_assoc]
    rfl

/-- The absolute form leads through all parts of the path. -/
theorem parts_absoluteChars (directory path : List Char) :
    parts (absoluteChars directory path) = parts (base directory path) ++ parts path := by
  have whole : parts ((parts path).foldl push (base directory path)) =
      parts (base directory path) ++ parts path :=
    parts_foldl_push fun _ => isStep_of_mem_parts
  unfold FilePath.absoluteChars
  simp only
  split
  · rw [parts_push, whole, parts_nil, List.append_nil]
  · exact whole

/-! ## Lists of paths -/

/-- An absolute path that leads where another one leads from a directory: through the parts of both,
none of which is resolved. -/
structure LeadsAlike (directory path file : String) : Prop where
  isAbsolute : FilePath.isAbsolute file.toList
  normal : Normal file.toList
  parts : parts file.toList =
    (if FilePath.isAbsolute path.toList then [] else FilePath.parts directory.toList) ++
      FilePath.parts path.toList
  slash : endsInSlash path.toList → endsInSlash file.toList

theorem absolute_of_ne {path : String} (directory : String) (h : path ≠ "") :
    absolute (.ok directory) path =
      .ok (String.ofList (absoluteChars directory.toList path.toList)) := by
  have filled : path.isEmpty = false := by simpa using h
  by_cases rooted : isAbsolute path.toList
  · have same :
        absoluteChars "".toList path.toList = absoluteChars directory.toList path.toList := by
      rw [absoluteChars, base_of_isAbsolute rooted "".toList directory.toList, absoluteChars]
    simp only [absolute, filled, rooted, ← same]
    rfl
  · simp only [absolute, filled, rooted]
    rfl

/-- Where there is a current directory, only the empty path has no absolute form. -/
theorem absolute_eq_error_iff {directory path : String} {fault : Fault} :
    absolute (.ok directory) path = .error fault ↔ path = "" ∧ fault = .empty := by
  by_cases h : path = ""
  · subst h
    constructor
    · rintro ⟨⟩
      exact ⟨rfl, rfl⟩
    · rintro ⟨-, rfl⟩
      rfl
  · rw [absolute_of_ne directory h]
    exact iff_of_false nofun fun empty => h empty.1

theorem leadsAlike_of_absolute {directory path file : String} (normal : Normal directory.toList)
    (h : absolute (.ok directory) path = .ok file) : LeadsAlike directory path file := by
  have filled : path ≠ "" := by
    rintro rfl
    cases h
  rw [absolute_of_ne directory filled] at h
  cases h
  have form := normal.absoluteChars path.toList
  refine ⟨?_, ?_, ?_, ?_⟩ <;> rw [String.toList_ofList]
  · exact form.isAbsolute
  · exact form
  · rw [parts_absoluteChars, parts_base]
  · exact normal.endsInSlash_absoluteChars

theorem absolute_of_normal {file : String} (h : Normal file.toList)
    (elsewhere : Except ReadFault String) : absolute elsewhere file = .ok file := by
  have filled : file ≠ "" := by
    rintro rfl
    cases h.isAbsolute
  have unasked : absolute elsewhere file = absolute (.ok "") file := by
    rw [absolute, absolute, if_pos h.isAbsolute, if_pos h.isAbsolute]
  rw [unasked, absolute_of_ne "" filled, h.absoluteChars_eq, String.ofList_toList]

/-- A list without an empty path has absolute forms. -/
theorem absoluteAll_eq_error_iff_mem {directory : String} {paths : List String} {fault : Fault} :
    absoluteAll (.ok directory) paths = .error fault ↔ "" ∈ paths ∧ fault = .empty := by
  constructor
  · intro h
    obtain ⟨before, path, after, rfl, -, refused⟩ := absoluteAll_eq_error_iff.mp h
    obtain ⟨rfl, rfl⟩ := absolute_eq_error_iff.mp refused
    exact ⟨by simp, rfl⟩
  · rintro ⟨empty, rfl⟩
    cases made : absoluteAll (.ok directory) paths with
    | error fault =>
      obtain ⟨_, _, _, -, -, refused⟩ := absoluteAll_eq_error_iff.mp made
      rw [(absolute_eq_error_iff.mp refused).2]
    | ok files =>
      obtain ⟨file, form⟩ := exists_absoluteAll_iff.mp ⟨files, made⟩ "" empty
      cases form

theorem absoluteAll_of_normal {files : List String} (h : ∀ file ∈ files, Normal file.toList)
    (elsewhere : Except ReadFault String) : absoluteAll elsewhere files = .ok files := by
  rw [absoluteAll_eq_ok_iff, List.forall₂_same]
  exact fun file hf => absolute_of_normal (h file hf) elsewhere

/-- **Absolute forms are made of every list without an empty path, and stay as they are.** In a
normal directory there is one form for each path, in their order, and it leads where the path
leads; made absolute once more, wherever that is, the forms do not change, even where there is no
current directory. -/
theorem absoluteAll_normal {directory : String} (normal : Normal directory.toList)
    (paths : List String) :
    (absoluteAll (.ok directory) paths = .error .empty ↔ "" ∈ paths) ∧
    ("" ∉ paths → ∃ files, absoluteAll (.ok directory) paths = .ok files ∧
      List.Forall₂ (LeadsAlike directory) paths files ∧
      ∀ elsewhere, absoluteAll elsewhere files = .ok files) := by
  refine ⟨absoluteAll_eq_error_iff_mem.trans (and_iff_left rfl), fun filled => ?_⟩
  cases made : absoluteAll (.ok directory) paths with
  | error fault => exact absurd (absoluteAll_eq_error_iff_mem.mp made).1 filled
  | ok files =>
    have forms : List.Forall₂ (LeadsAlike directory) paths files :=
      (absoluteAll_eq_ok_iff.mp made).imp fun _ _ => leadsAlike_of_absolute normal
    have each : ∀ file ∈ files, Normal file.toList := by
      intro file hf
      obtain ⟨path, -, form⟩ := Outcome.exists_of_forall₂ forms.flip file hf
      exact form.normal
    exact ⟨files, rfl, forms, absoluteAll_of_normal each⟩

theorem absoluteAll_normal_mixed :
    Normal "/home/u".toList ∧
    "" ∉ ["./a//b/", "..", "//x/./y", "/"] ∧
    absoluteAll (.ok "/home/u") ["./a//b/", "..", "//x/./y", "/"] ≠ .error .empty ∧
    ∃ files, absoluteAll (.ok "/home/u") ["./a//b/", "..", "//x/./y", "/"] = .ok files ∧
      List.Forall₂ (LeadsAlike "/home/u") ["./a//b/", "..", "//x/./y", "/"] files ∧
      ∀ elsewhere, absoluteAll elsewhere files = .ok files := by
  have home : IsStep "home".toList := ⟨by decide, by decide⟩
  have user : IsStep "u".toList := ⟨by decide, by decide⟩
  have normal : Normal "/home/u".toList := (Normal.root.step home).step user
  have filled : "" ∉ ["./a//b/", "..", "//x/./y", "/"] := by decide
  obtain ⟨refused, made⟩ := absoluteAll_normal normal ["./a//b/", "..", "//x/./y", "/"]
  exact ⟨normal, filled, fun failed => filled (refused.mp failed), made filled⟩

/-- The parts of the directory come first, and no part leads back. -/
example :
    absoluteAll (.ok "/home/u") ["./a//b/", "..", "//x/./y", "/"] =
      .ok ["/home/u/a/b/", "/home/u/..", "//x/y", "/"] := by
  decide +kernel

end Schemata.FilePath
