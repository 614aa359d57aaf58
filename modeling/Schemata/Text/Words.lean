import Schemata.Text.Letter

/-!
# Words of an identifier

`words` splits text into the words of an identifier: at every character that is neither letter
nor digit, after a lower-case letter before an upper-case one, and before the last capital of a
run that a lower-case letter follows. Digits never break a word. The casings join the words
again.
-/

namespace Schemata.Text

/-- The case of the letters of a word so far. -/
inductive WordCase where
  | none | lower | upper
deriving DecidableEq, Repr

/-- The case after one more character. -/
def WordCase.after (k : WordCase) (c : Char) : WordCase :=
  if isLowercase c then .lower else if isUppercase c then .upper else k

/-- Splits letters and digits into words. `acc` holds the word so far, last character first, and
`k` the case of its letters. -/
def splitCase (k : WordCase) (acc : List Char) : List Char → List (List Char)
  | [] => []
  | [c] => [(c :: acc).reverse]
  | c :: next :: rest =>
    if k.after c == .lower && isUppercase next then
      (c :: acc).reverse :: splitCase .none [] (next :: rest)
    else if k == .upper && isUppercase c && isLowercase next then
      acc.reverse :: splitCase .none [c] (next :: rest)
    else splitCase (k.after c) (c :: acc) (next :: rest)

/-- Splits text into its stretches of letters and digits. -/
def stretches (acc : List Char) : List Char → List (List Char)
  | [] => [acc.reverse]
  | c :: rest =>
    if isAlphanumeric c then stretches (c :: acc) rest else acc.reverse :: stretches [] rest

/-- The words of an identifier. -/
def words (s : String) : List (List Char) := (stretches [] s.toList).flatMap (splitCase .none [])

/-! ## Casings -/

/-- A word in lower case; a sigma at its end is final. -/
def lowerWord : List Char → List Char
  | [] => []
  | ['Σ'] => ['ς']
  | c :: rest => lowerForm c ++ lowerWord rest

def upperWord (word : List Char) : List Char := word.flatMap upperForm

/-- A word in lower case with a capital in front. -/
def capitalWord : List Char → List Char
  | [] => []
  | c :: rest => upperForm c ++ lowerWord rest

def joinWords (separator : String) (parts : List (List Char)) : String :=
  separator.intercalate (parts.map String.ofList)

def snakeCase (s : String) : String := joinWords "_" ((words s).map lowerWord)

def shoutySnakeCase (s : String) : String := joinWords "_" ((words s).map upperWord)

def pascalCase (s : String) : String := joinWords "" ((words s).map capitalWord)

def camelCase (s : String) : String :=
  match words s with
  | [] => ""
  | first :: rest => joinWords "" (lowerWord first :: rest.map capitalWord)

end Schemata.Text
