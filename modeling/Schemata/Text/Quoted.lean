import Schemata.Text.CharClass

/-!
# Quoted text

`quoted` shows a text between double quotes, as messages do: quotes and backslashes are escaped,
and so is every character that would not be seen as itself.
-/

namespace Schemata.Text

def hexDigits (n : Nat) : String := String.ofList (Nat.toDigits 16 n)

/-- How a character stands in quoted text. -/
def escaped (c : Char) : String :=
  match c with
  | '\x00' => "\\0"
  | '\t' => "\\t"
  | '\r' => "\\r"
  | '\n' => "\\n"
  | '\\' => "\\\\"
  | '"' => "\\\""
  | c =>
    if isExtending c || !isPrintable c then "\\u\x7b" ++ hexDigits c.toNat ++ "\x7d"
    else c.toString

def quoted (s : String) : String :=
  "\"" ++ String.join (s.toList.map escaped) ++ "\""

end Schemata.Text
