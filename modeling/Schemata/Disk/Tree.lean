import Schemata.Disk
import Schemata.FilePath

/-!
# File trees

A `Tree` holds files and directories in memory; `Tree.disk` reads it from a working directory.
-/

namespace Schemata.Disk

/-- What a path leads to. -/
inductive Item where
  | file (octets : List UInt8)
  | directory
deriving DecidableEq, Repr

/-- Files and directories by the parts of their absolute paths. -/
structure Tree where
  items : List (List (List Char) × Item) := []

namespace Tree

/-- What stands at a place. The root is always there. -/
def find? (t : Tree) (place : List (List Char)) : Option Item :=
  if place.isEmpty then some .directory else t.items.lookup place

/-- Puts an item at a place unless something is there. -/
def addNew (t : Tree) (place : List (List Char)) (item : Item) : Tree :=
  match t.find? place with
  | some _ => t
  | none => { items := (place, item) :: t.items }

/-- Makes the directories that lead to a place, behind those of `above`. -/
def addParents (t : Tree) (above : List (List Char)) : List (List Char) → Tree
  | [] | [_] => t
  | part :: rest => (t.addNew (above ++ [part]) .directory).addParents (above ++ [part]) rest

/-- Puts an item at a place, in directories made for it. -/
def insert (t : Tree) (place : List (List Char)) (item : Item) : Tree :=
  let t := t.addParents [] place
  match item with
  | .directory => t.addNew place .directory
  | .file _ => { items := (place, item) :: t.items.filter (·.1 != place) }

/-- Walks from a directory along the parts of a path. -/
def walk (t : Tree) (place : List (List Char)) :
    List (List Char) → Except ReadFault (List (List Char))
  | [] => .ok place
  | part :: rest =>
    match t.find? place with
    | none => .error .notFound
    | some (.file _) => .error .notADirectory
    | some .directory =>
      walk t (if part == ['.', '.'] then place.dropLast else place ++ [part]) rest

/-- Whether a path asks for a directory: it ends in a slash or in a lone dot. -/
def asksDirectory (path : List Char) : Bool :=
  match (FilePath.pieces path).getLast? with
  | some piece => !FilePath.leads piece
  | none => false

/-- The item that a path from a working directory leads to. -/
def item (t : Tree) (directory : List (List Char)) (path : String) : Except ReadFault Item := do
  let path := path.toList
  if path.isEmpty then throw .notFound
  let place ← t.walk (if FilePath.isAbsolute path then [] else directory) (FilePath.parts path)
  match t.find? place with
  | none => throw .notFound
  | some .directory => return .directory
  | some (.file octets) =>
    if asksDirectory path then throw .notADirectory else return .file octets

/-- Reads the files of the tree by paths from a working directory. -/
def disk (t : Tree) (directory : List (List Char)) : Disk := fun path => do
  match ← t.item directory path with
  | .file octets => return octets
  | .directory => throw .isDirectory

/-- Whether a path from a working directory leads to a file. -/
def isFile (t : Tree) (directory : List (List Char)) (path : String) : Bool :=
  match t.item directory path with
  | .ok (.file _) => true
  | _ => false

end Tree

end Schemata.Disk
