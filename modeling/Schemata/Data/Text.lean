import Schemata.Data
import Schemata.Text.Quoted

/-!
# Data as text

`json` writes data as one line of JSON and `prettyJson` over indented lines. `text` is what a
template prints for it: nothing for null, `[object]` for an object. `tree` names every
constructor, for messages.
-/

namespace Schemata.Data

def jsonEscape (c : Char) : String :=
  match c with
  | '"' => "\\\""
  | '\\' => "\\\\"
  | '\n' => "\\n"
  | '\r' => "\\r"
  | '\t' => "\\t"
  | '\x08' => "\\b"
  | '\x0c' => "\\f"
  | c =>
    if c.toNat < 0x10 then "\\u000" ++ Text.hexDigits c.toNat
    else if c.toNat < 0x20 then "\\u00" ++ Text.hexDigits c.toNat
    else c.toString

def jsonString (s : String) : String := "\"" ++ String.join (s.toList.map jsonEscape) ++ "\""

/-- Joins parts with commas. -/
def commas (parts : List String) : String := ",".intercalate parts

mutual

/-- One line of JSON. -/
def json : Data → String
  | .null => "null"
  | .bool b => toString b
  | .number n => n.write .data
  | .string s => jsonString s
  | .list items => "[" ++ commas (jsonItems items) ++ "]"
  | .object entries => "\x7b" ++ commas (jsonEntries entries) ++ "\x7d"

def jsonItems : List Data → List String
  | [] => []
  | d :: rest => d.json :: jsonItems rest

def jsonEntries : List (String × Data) → List String
  | [] => []
  | (name, d) :: rest => (jsonString name ++ ":" ++ d.json) :: jsonEntries rest

end

def indented (depth : Nat) (part : String) : String :=
  "\n" ++ String.ofList (List.replicate (2 * depth) ' ') ++ part

/-- Parts on lines of their own between brackets. -/
def bracketed (opening closing : String) (depth : Nat) (parts : List String) : String :=
  if parts.isEmpty then opening ++ closing
  else opening ++ commas (parts.map (indented (depth + 1))) ++ indented depth closing

mutual

def prettyFrom (depth : Nat) : Data → String
  | .list items => bracketed "[" "]" depth (prettyItems (depth + 1) items)
  | .object entries => bracketed "\x7b" "\x7d" depth (prettyEntries (depth + 1) entries)
  | d => d.json

def prettyItems (depth : Nat) : List Data → List String
  | [] => []
  | d :: rest => d.prettyFrom depth :: prettyItems depth rest

def prettyEntries (depth : Nat) : List (String × Data) → List String
  | [] => []
  | (name, d) :: rest => (jsonString name ++ ": " ++ d.prettyFrom depth) :: prettyEntries depth rest

end

/-- JSON with each item and entry on a line of its own. -/
def prettyJson (d : Data) : String := d.prettyFrom 0

mutual

/-- What a template prints. -/
def text : Data → String
  | .null => ""
  | .bool b => toString b
  | .number n => n.write .printed
  | .string s => s
  | .list items => "[" ++ ", ".intercalate (textItems items) ++ "]"
  | .object _ => "[object]"

def textItems : List Data → List String
  | [] => []
  | d :: rest => d.text :: textItems rest

end

mutual

/-- The constructors that build the data. -/
def tree : Data → String
  | .null => "Null"
  | .bool b => "Bool(" ++ toString b ++ ")"
  | .number n => "Number(" ++ n.write .data ++ ")"
  | .string s => "String(" ++ Text.quoted s ++ ")"
  | .list items => "Array [" ++ ", ".intercalate (treeItems items) ++ "]"
  | .object entries => "Object \x7b" ++ ", ".intercalate (treeEntries entries) ++ "\x7d"

def treeItems : List Data → List String
  | [] => []
  | d :: rest => d.tree :: treeItems rest

def treeEntries : List (String × Data) → List String
  | [] => []
  | (name, d) :: rest => (Text.quoted name ++ ": " ++ d.tree) :: treeEntries rest

end

end Schemata.Data
