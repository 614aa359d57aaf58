import Schemata.Number.WrittenForm

/-!
# TOML items

An `Item` is a value or a table of a document, with the stretch of text that spells it. Tables
remember how they came about, since that decides whether they may still be opened.
-/

namespace Schemata.Toml

/-- A stretch of text, in octets. -/
structure Span where
  start : Nat
  stop : Nat
deriving DecidableEq, Repr, Inhabited

/-- How many octets characters take. -/
def octetCount (cs : List Char) : Nat := cs.foldl (fun n c => n + c.utf8Size) 0

structure Key where
  text : String
  span : Span
deriving DecidableEq, Repr, Inhabited

/-- How a table came about. -/
inductive Origin where
  /-- By a header of its own. -/
  | header
  /-- By a longer header. -/
  | implied
  /-- By a key with dots. -/
  | dotted
deriving DecidableEq, Repr, Inhabited

inductive Item where
  | string (span : Span) (text : String)
  | integer (span : Span) (value : Int)
  | float (span : Span) (value : Double)
  | boolean (span : Span) (value : Bool)
  /-- A date, a time or both, as written anew. -/
  | moment (span : Span) (text : String)
  | array (span : Span) (items : List Item)
  /-- A table in braces; one that a key with dots made in such a table has no span. -/
  | inline (span : Option Span) (entries : List (Key × Item))
  | table (span : Option Span) (origin : Origin) (entries : List (Key × Item))
  /-- Tables under one header in double brackets. -/
  | tables (elements : List Item)

abbrev Entries := List (Key × Item)

namespace Item

/-- The name of the kind in messages. -/
def kind : Item → String
  | .string .. => "string"
  | .integer .. => "integer"
  | .float .. => "float"
  | .boolean .. => "boolean"
  | .moment .. => "datetime"
  | .array .. => "array"
  | .inline .. => "inline table"
  | .table .. => "table"
  | .tables _ => "array of tables"

/-- The stretch of an item that stands for itself. -/
def ownSpan? : Item → Option Span
  | .string span _ | .integer span _ | .float span _ | .boolean span _ | .moment span _
  | .array span _ => some span
  | .inline span _ | .table span _ _ => span
  | .tables _ => none

/-- The stretch of text that spells the item, if it stands in one piece. -/
def span? : Item → Option Span
  | .tables elements =>
    match elements.head?.bind ownSpan?, elements.getLast?.bind ownSpan? with
    | some first, some last => some { start := first.start, stop := last.stop }
    | _, _ => none
  | item => item.ownSpan?

end Item

namespace Entries

def get? (entries : Entries) (name : String) : Option Item :=
  (List.find? (·.1.text == name) entries).map (·.2)

def erase (entries : Entries) (name : String) : Entries :=
  List.filter (·.1.text != name) entries

/-- Sets the item of a key: in place when the key is there, else at the end. -/
def set (key : Key) (item : Item) : Entries → Entries
  | [] => [(key, item)]
  | (k, i) :: rest =>
    if k.text == key.text then (k, item) :: rest else (k, i) :: set key item rest

end Entries

end Schemata.Toml
