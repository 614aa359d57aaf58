import Schemata.Text.Property.Flag

/-!
# Searching in text

Splitting at a pattern, replacing it, and the tests for a part of a text.
-/

namespace Schemata.Text

/-- Splits at each occurrence of a pattern that is not empty. `skip` characters are still part of
the last occurrence, and `acc` holds the piece so far, last character first. -/
def splitFrom (pattern : List Char) : Nat → List Char → List Char → List (List Char)
  | _, acc, [] => [acc.reverse]
  | skip + 1, acc, _ :: rest => splitFrom pattern skip acc rest
  | 0, acc, c :: rest =>
    if pattern.isPrefixOf (c :: rest) then
      acc.reverse :: splitFrom pattern (pattern.length - 1) [] rest
    else splitFrom pattern 0 (c :: acc) rest

/-- The pieces between the occurrences of a pattern. The empty pattern occurs around each
character. -/
def split (pattern s : String) : List String :=
  if pattern.isEmpty then "" :: s.toList.map (String.ofList [·]) ++ [""]
  else (splitFrom pattern.toList 0 [] s.toList).map String.ofList

def replace (pattern replacement s : String) : String :=
  replacement.intercalate (split pattern s)

/-- Whether the part occurs somewhere. -/
def occurs (part : List Char) : List Char → Bool
  | [] => part.isEmpty
  | c :: rest => part.isPrefixOf (c :: rest) || occurs part rest

def contains (s part : String) : Bool := occurs part.toList s.toList

def startsWith (s front : String) : Bool := front.toList.isPrefixOf s.toList

def endsWith (s back : String) : Bool := back.toList.reverse.isPrefixOf s.toList.reverse

/-- Drops a front from a list for as long as it is there, at most so many times. -/
def dropFronts (front : List Char) : Nat → List Char → List Char
  | 0, cs => cs
  | n + 1, cs =>
    match front.isPrefixOf? cs with
    | some rest => dropFronts front n rest
    | none => cs

def trimStartMatches (pattern s : String) : String :=
  String.ofList (dropFronts pattern.toList s.length s.toList)

def trimEndMatches (pattern s : String) : String :=
  String.ofList (dropFronts pattern.toList.reverse s.length s.toList.reverse).reverse

/-! ## Lines and words -/

/-- The lines; what follows the last line feed is a line only if it is not empty. A carriage
return before a line feed is not part of the line. -/
def lines (s : String) : List String :=
  let pieces := splitFrom ['\n'] 0 [] s.toList
  let ended := pieces.dropLast.map fun line =>
    if line.getLast? == some '\r' then line.dropLast else line
  let last := pieces.getLast?.getD []
  (if last.isEmpty then ended else ended ++ [last]).map String.ofList

/-- The number of stretches without white space. -/
def wordCount (s : String) : Nat :=
  (s.toList.foldl (fun (count, inWord) c =>
    if isWhitespace c then (count, false) else (if inWord then count else count + 1, true))
    ((0 : Nat), false)).1

/-- Whether the edge of a word lies between two characters. -/
def isWordEdge (before after : Option Char) : Bool :=
  before.any isWordChar != after.any isWordChar

/-- The greatest length up to `n` at which a word ends. -/
def wordLength (run : List Char) (after : Option Char) : Nat → Nat
  | 0 => 0
  | n + 1 =>
    let next := (run[n + 1]?).or (if run.length ≤ n + 1 then after else none)
    if isWordEdge (run[n]?) next then n + 1 else wordLength run after n

/-- Puts a capital in front of each word and its other letters in lower case. Quotes are part of
words. -/
def titleFrom (before : Option Char) : Nat → List Char → List Char
  | 0, cs => cs
  | _, [] => []
  | fuel + 1, c :: rest =>
    let isPart (c : Char) : Bool := isWordChar c || c == '\''
    let (run, tail) := (c :: rest).span isPart
    let length := wordLength run tail.head? run.length
    if isWordEdge before (some c) && 0 < length then
      let word := run.take length
      upperForm c ++ lowerFrom [] word.tail ++
        titleFrom word.getLast? fuel (run.drop length ++ tail)
    else c :: titleFrom (some c) fuel rest

def title (s : String) : String := String.ofList (titleFrom none s.length s.toList)

/-- A capital in front, and everything else in lower case. -/
def capitalize (s : String) : String :=
  match s.toList with
  | [] => ""
  | c :: rest => String.ofList (upperForm c ++ lowerFrom [] rest)

/-! ## Marked-up text -/

def escapeWith (form : Char → Option String) (s : String) : String :=
  String.join (s.toList.map fun c => (form c).getD c.toString)

def escapeHtml : String → String := escapeWith fun
  | '&' => some "&amp;"
  | '<' => some "&lt;"
  | '>' => some "&gt;"
  | '"' => some "&quot;"
  | '\'' => some "&#x27;"
  | '/' => some "&#x2F;"
  | _ => none

def escapeXml : String → String := escapeWith fun
  | '&' => some "&amp;"
  | '<' => some "&lt;"
  | '>' => some "&gt;"
  | '"' => some "&quot;"
  | '\'' => some "&apos;"
  | _ => none

/-- What follows the end of a comment on the same line. -/
def afterComment : List Char → Option (List Char)
  | [] => none
  | '-' :: '-' :: '>' :: rest => some rest
  | '\n' :: _ => none
  | _ :: rest => afterComment rest

/-- What follows a tag or a comment that opens here. -/
def afterTag : List Char → Option (List Char)
  | '<' :: rest =>
    let comment := (['!', '-', '-'].isPrefixOf? rest).bind afterComment
    comment.or ((rest.dropWhile (· != '>')).tail?)
  | _ => none

/-- Removes tags and comments. -/
def stripTagsFrom : Nat → List Char → List Char
  | 0, cs => cs
  | _, [] => []
  | fuel + 1, c :: rest =>
    match afterTag (c :: rest) with
    | some after => stripTagsFrom fuel after
    | none => c :: stripTagsFrom fuel rest

def stripTags (s : String) : String := String.ofList (stripTagsFrom s.length s.toList)

/-- Removes white space between a tag that ends and one that starts. -/
def joinTags : List Char → List Char
  | [] => []
  | c :: rest =>
    if c == '>' && (rest.dropWhile isWhitespace).head? == some '<' then
      '>' :: joinTags.skip rest
    else c :: joinTags rest
where
  /-- Skips white space. -/
  skip : List Char → List Char
    | [] => []
    | c :: rest => if isWhitespace c then skip rest else c :: joinTags rest

def spaceless (s : String) : String := String.ofList (joinTags s.toList)

/-! ## Octets in addresses -/

def upperHexDigits (n : Nat) : List Char :=
  let digits := (Nat.toDigits 16 n).map Char.toUpper
  List.replicate (2 - digits.length) '0' ++ digits

/-- Writes the octets of a text, those out of the class behind a percent sign. -/
def percentEncode (isPlain : Char → Bool) (s : String) : String :=
  String.ofList (s.toUTF8.toList.flatMap fun b =>
    let c := Char.ofNat b.toNat
    if b.toNat < 0x80 && isPlain c then [c] else '%' :: upperHexDigits b.toNat)

/-- Everything but letters and digits is encoded. -/
def urlEncodeStrict : String → String := percentEncode Char.isAlphanum

/-- A few signs and the slash stand as they are. -/
def urlEncode : String → String :=
  percentEncode fun c => c.isAlphanum || "-._~/%".toList.contains c

end Schemata.Text
