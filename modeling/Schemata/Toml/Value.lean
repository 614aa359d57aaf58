import Schemata.Toml.Moment
import Schemata.Toml.Number

/-!
# TOML keys and values

Arrays and inline tables nest; a value at the greatest depth may not hold another.
-/

namespace Schemata.Toml

/-- A key is bare, or it is written as a string. -/
def isBareChar (c : Char) : Bool := c.isAlphanum || c == '-' || c == '_'

/-- How a key is written anew: bare, or else between the quotes that need no escapes. -/
def writeKey (key : String) : String :=
  let cs := key.toList
  let isControl (c : Char) : Bool := (c.toNat < 0x20 && c != '\t') || c.toNat == 0x7F
  let escape (c : Char) : String :=
    match c with
    | '\x08' => "\\b"
    | '\t' => "\\t"
    | '\n' => "\\n"
    | '\x0c' => "\\f"
    | '\r' => "\\r"
    | '"' => "\\\""
    | '\\' => "\\\\"
    | c =>
      if isControl c then
        let digits := Text.hexDigits c.toNat
        "\\u" ++ "".pushn '0' (4 - digits.length) ++ digits.toUpper
      else c.toString
  if !cs.isEmpty && cs.all isBareChar then key
  else if cs.all fun c => !isControl c && c != '"' && c != '\\' then "\"" ++ key ++ "\""
  else if cs.all fun c => !isControl c && c != '\'' then "'" ++ key ++ "'"
  else "\"" ++ String.join (cs.map escape) ++ "\""

/-- How deep values may nest. -/
def maxDepth : Nat := 79

/-! ## Inline tables -/

/-- Puts an item under a key with dots. `before` are the keys already passed, last first. -/
def putInline (key : Key) (item : Item) (before : List String) :
    List Key → Entries → Except Cause Entries
  | [], entries =>
    match entries.get? key.text with
    | some _ => .error (.duplicateKey key.text none)
    | none => .ok (entries ++ [(key, item)])
  | k :: path, entries => do
    let under ← match entries.get? k.text with
      | none => pure []
      | some (.inline none inner) => pure inner
      | some (.inline (some _) _) => throw (.duplicateKey k.text none)
      | some other => throw (.notATable ((k.text :: before).reverse) other.kind)
    return entries.set k (.inline none (← putInline key item (k.text :: before) path under))

/-- The entries that pairs make; each key is a path and its last part. -/
def inlineEntries : List (List Key × Key × Item) → Entries → Except Cause Entries
  | [], entries => .ok entries
  | (path, key, item) :: rest, entries => do
    inlineEntries rest (← putInline key item [] path entries)

namespace Reader

/-- One part of a key. -/
def keyPart : Reader Key := do
  let (text, span) ← spanned do
    match ← next? with
    | some '"' => basicString
    | some '\'' => literalString
    | _ => do return String.ofList (← span1 isBareChar)
  return { text, span }

/-- A key: the path of the table and the last part. -/
def key : Reader (List Key × Key) :=
  checked
    (named .key <| separated1
      (do
        blanks
        let part ← keyPart
        blanks
        return part)
      (lit "."))
    fun parts =>
      match parts.getLast? with
      | none => .error {}
      | some last =>
        if maxDepth < parts.length then .error { cause := some .tooDeep }
        else .ok (parts.dropLast, last)

/-- What stands between a key and its value. -/
def equals : Reader Unit :=
  wanting (.text "=") (wanting (.text ".") (lit "="))

/-- A word that is a value. Elsewhere a string would have been fine. -/
def orString (r : Reader α) : Reader α :=
  wanting (.text "'") (wanting (.text "\"") (named .string r))

def boolean (b : Bool) : Reader Bool := do
  settle (lit (toString b))
  return b

/-- An array of values. -/
def array (value : Reader Item) : Reader (List Item) := do
  lit "["
  let items ← settle do
    if (← next?) == some ']' then return []
    let items ← separated (do filling; let item ← value; filling; return item) (lit ",")
    if !items.isEmpty then discard (maybe (lit ","))
    filling
    return items
  wanting (.text "]") (named .array (settle (lit "]")))
  return items

/-- A table in braces. -/
def inlineTable (value : Reader Item) : Reader Entries := do
  lit "\x7b"
  let pair : Reader (List Key × Key × Item) := do
    let (path, last) ← key
    settle do
      equals
      blanks
      let item ← value
      blanks
      return (path, last, item)
  let entries ← settle <| checked (do let pairs ← separated pair (lit ","); blanks; return pairs)
    fun pairs => (inlineEntries pairs []).mapError fun cause => { cause := some cause }
  wanting (.text "\x7d") (named .inlineTable (settle (lit "\x7d")))
  return entries

/-- A value; `inner?` reads the values in it, if it may hold any. -/
def valueAround (inner? : Option (Reader Item)) : Reader Item := do
  let nested (r : Reader Item → Reader (Span → Item)) : Reader (Span → Item) :=
    match inner? with
    | none => settle (refuseFor .tooDeep)
    | some inner => r inner
  let as {α : Type} (r : Reader α) (make : Span → α → Item) : Reader (Span → Item) :=
    (fun a span => make span a) <$> r
  let ofInteger := as integer .integer
  let ofFloat := as float .float
  let (make, span) ← spanned do
    match ← next? with
    | none => refuse
    | some c =>
      if c == '"' || c == '\'' then as string .string
      else if c == '[' then nested fun value => as (array value) .array
      else if c == '{' then
        nested fun value => as (inlineTable value) fun span => .inline (some span)
      else if c == '+' || c == '-' || c.isDigit then
        orElse (as moment .moment) (orElse ofFloat ofInteger)
      else if c == '_' then wanting .leadingDigit ofInteger
      else if c == '.' then wanting .leadingDigit ofFloat
      else if c == 't' then orString (as (boolean true) .boolean)
      else if c == 'f' then orString (as (boolean false) .boolean)
      else if c == 'i' then orString (as infinite .float)
      else if c == 'n' then orString (as notANumber .float)
      else orString refuse
  return make span

/-- A value in which values nest at most so deep. -/
def valueWithin : Nat → Reader Item
  | 0 => valueAround none
  | depth + 1 => valueAround (some (valueWithin depth))

def value : Reader Item := valueWithin maxDepth

end Reader

end Schemata.Toml
