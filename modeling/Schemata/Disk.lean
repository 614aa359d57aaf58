import Schemata.Text.Utf8

/-!
# Disks

A disk answers what reading a file by its path gives: the octets of the file, or why there are
none. The path is the text that the user gave, so a disk knows the working directory.
-/

namespace Schemata

/-- Why a file cannot be read. -/
inductive ReadFault where
  | notFound
  | notADirectory
  | isDirectory
  /-- The octets are no UTF-8 text. -/
  | notText
  | other (reason : String)
deriving DecidableEq, Repr, Inhabited

def ReadFault.message : ReadFault → String
  | .notFound => "No such file or directory (os error 2)"
  | .notADirectory => "Not a directory (os error 20)"
  | .isDirectory => "Is a directory (os error 21)"
  | .notText => "stream did not contain valid UTF-8"
  | .other reason => reason

/-- What reading a file by its path gives. -/
abbrev Disk := String → Except ReadFault (List UInt8)

namespace Disk

/-- The text of a file. -/
def readText (disk : Disk) (path : String) : Except ReadFault String := do
  match Text.Utf8.decode? (← disk path) with
  | some text => return text
  | none => throw .notText

end Disk

end Schemata
