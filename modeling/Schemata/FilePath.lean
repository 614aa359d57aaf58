import Schemata.Disk

/-!
# File paths

Paths are texts whose parts stand between slashes. Empty parts and parts that are one dot lead
nowhere; two dots lead to the directory above and are never resolved here.
-/

namespace Schemata.FilePath

/-- Cuts at every slash. -/
def pieces : List Char → List (List Char)
  | [] => [[]]
  | '/' :: rest => [] :: pieces rest
  | c :: rest =>
    match pieces rest with
    | [] => [[c]]
    | piece :: more => (c :: piece) :: more

/-- Whether a piece leads anywhere. -/
def leads (piece : List Char) : Bool := piece != [] && piece != ['.']

/-- The parts of a path that lead somewhere. -/
def parts (path : List Char) : List (List Char) := (pieces path).filter leads

theorem pieces_ne_nil (path : List Char) : pieces path ≠ [] := by
  fun_induction pieces path <;> simp

theorem slash_not_mem_of_mem_pieces {path piece : List Char} (h : piece ∈ pieces path) :
    '/' ∉ piece := by
  fun_induction pieces path generalizing piece with
  | case1 => simp_all
  | case2 rest ih =>
    rcases List.mem_cons.1 h with rfl | h
    · simp
    · exact ih h
  | case3 c rest _ hp => exact absurd hp (pieces_ne_nil rest)
  | case4 c rest hc front more hp ih =>
    rcases List.mem_cons.1 h with rfl | h
    · have hf : '/' ∉ front := ih (by simp [hp])
      simp only [List.mem_cons, not_or]
      exact ⟨fun h => hc h.symm, hf⟩
    · exact ih (by simp [hp, h])

theorem leads_of_mem_parts {path part : List Char} (h : part ∈ parts path) : leads part := by
  simp only [parts, List.mem_filter] at h
  exact h.2

/-- Puts a part behind a path, with a slash between them unless the path ends in one. -/
def push (path part : List Char) : List Char :=
  if path.isEmpty || path.getLast? == some '/' then path ++ part else path ++ '/' :: part

def isAbsolute (path : List Char) : Bool := path.head? == some '/'

/-- What a path starts from: the root, the root spelled with exactly two slashes, or the current
directory. -/
def base (directory path : List Char) : List Char :=
  match path with
  | '/' :: '/' :: '/' :: _ => ['/']
  | '/' :: '/' :: _ => ['/', '/']
  | '/' :: _ => ['/']
  | _ => directory

/-- The absolute form of a path: parts that lead nowhere are dropped, and a slash at the end is
kept. -/
def absoluteChars (directory path : List Char) : List Char :=
  let whole := (parts path).foldl push (base directory path)
  if path.getLast? == some '/' then push whole [] else whole

/-- Why a path has no absolute form. -/
inductive Fault where
  | empty
  /-- The path starts from the current directory, and there is none. -/
  | noDirectory (fault : ReadFault)
deriving DecidableEq, Repr

def Fault.message : Fault → String
  | .empty => "cannot make an empty path absolute"
  | .noDirectory fault => fault.message

/-- The absolute form of a path. `directory` is the current one, or why there is none; a path from
a root does without. -/
def absolute (directory : Except ReadFault String) (path : String) : Except Fault String := do
  if path.isEmpty then throw .empty
  let directory ← if isAbsolute path.toList then pure "" else directory.mapError .noDirectory
  return String.ofList (absoluteChars directory.toList path.toList)

/-- The absolute forms of paths, in their order. -/
def absoluteAll (directory : Except ReadFault String) (paths : List String) :
    Except Fault (List String) :=
  paths.mapM (absolute directory)

/-- The last part, unless it leads to the directory above. -/
def fileName? (path : String) : Option String :=
  match (parts path.toList).getLast? with
  | some part => if part == ['.', '.'] then none else some (String.ofList part)
  | none => none

/-- A path below a directory. -/
def join (directory path : String) : String :=
  String.ofList (push directory.toList path.toList)

end Schemata.FilePath
