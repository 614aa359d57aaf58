import Schemata.Number.Arithmetic
import Schemata.Template.Filter.Argument
import Schemata.Template.Path
import Schemata.Text.Search

/-!
# Filters of lists
-/

namespace Schemata.Template.Filter

def list (name : String) (d : Data) : Except FilterFault (List Data) :=
  value name .list Data.items? d

def nth : Filter := fun d args => do
  let items ← list "nth" d
  if items.isEmpty then return .string ""
  match ← optional "nth" "n" .nat64 Data.nat64? args with
  | none => throw (.missingArgument "nth" "n")
  | some n => return items[n]?.getD (.string "")

def first : Filter := fun d _ => do return (← list "first" d).head?.getD (.string "")

def last : Filter := fun d _ => do return (← list "last" d).getLast?.getD (.string "")

def join : Filter := fun d args => do
  let items ← list "join" d
  let separator ← withDefault "truncate" "sep" .string Data.string? args ""
  let separator := Text.replace "\\t" "\t" (Text.replace "\\n" "\n" separator)
  return .string (separator.intercalate (items.map Data.text))

/-- The part of an item that a field name leads to; the empty name means the item. -/
def attributeOf (name : String) (d : Data) : Except FilterFault Data :=
  match Data.at? name d with
  | some part => .ok part
  | none => .error (.noAttribute name)

/-- What items are sorted by. -/
inductive SortKey where
  | rank (r : Int)
  | text (s : String)

def SortKey.le : SortKey → SortKey → Bool
  | .rank a, .rank b => a ≤ b
  | .text a, .text b => a ≤ b
  | .rank _, .text _ => true
  | .text _, .rank _ => false

/-- The reader of sort keys that the first key calls for. -/
def sortKeys (sample : Data) : Except FilterFault (Data → Except FilterFault SortKey) :=
  let keyed (kind : String) (read? : Data → Option SortKey) : Data → Except FilterFault SortKey :=
    fun d => match read? d with
      | some k => .ok k
      | none => .error (.notComparable kind d)
  match sample with
  | .null => .error (.notSortable "Null")
  | .object _ => .error (.notSortable "Object")
  | .bool _ => .ok (keyed "bool" fun d => d.bool?.map fun b => .rank b.toNat)
  | .number _ => .ok (keyed "number" fun d => d.double?.map fun x => .rank x.totalKey)
  | .string _ => .ok (keyed "string" fun d => d.string?.map .text)
  | .list _ => .ok (keyed "array" fun d => d.items?.map fun xs => .rank xs.length)

def sort : Filter := fun d args => do
  let items ← list "sort" d
  match items with
  | [] => return .list []
  | sample :: _ =>
    let field ← withDefault "sort" "attribute" .string Data.string? args ""
    let keyOf ← sortKeys (← attributeOf field sample)
    let keyed ← items.mapM fun item => do
      return (← keyOf (← attributeOf field item), item)
    return .list ((keyed.mergeSort fun a b => a.1.le b.1).map (·.2))

/-- Whether two pieces of data have the same constructor. -/
def sameKind : Data → Data → Bool
  | .null, .null | .bool _, .bool _ | .number _, .number _ | .string _, .string _
  | .list _, .list _ | .object _, .object _ => true
  | _, _ => false

/-- What tells the items of a list apart, given the first of the keys. -/
def distinction (caseSensitive : Bool) (sample : Data) :
    Except FilterFault (Data → Except FilterFault Data) :=
  match sample with
  | .null => .error (.notDistinguishable "Null is not a unique value")
  | .list _ => .error (.notDistinguishable "Unique arrays are not implemented")
  | .object _ => .error (.notDistinguishable "Unique objects are not implemented")
  | .number (.float _) => .error (.notDistinguishable "Unique floats are not implemented")
  | .number (.int _) =>
    .ok fun d => if d.int64?.isSome then .ok d else .error (.notComparable "number" d)
  | .bool _ => .ok .ok
  | .string _ =>
    .ok fun d => .ok (if caseSensitive then d else d.string?.elim d (.string ∘ Text.lower))

/-- Keeps the first of the items with one key; items without the field are dropped. -/
def uniqueItems (field : String) (sample : Data) (keyOf : Data → Except FilterFault Data) :
    List Data → List Data → Except FilterFault (List Data)
  | _, [] => .ok []
  | seen, item :: rest =>
    match Data.at? field item with
    | none => uniqueItems field sample keyOf seen rest
    | some part =>
      if sameKind sample part then do
        let key ← keyOf part
        if seen.any key.same then uniqueItems field sample keyOf seen rest
        else return item :: (← uniqueItems field sample keyOf (key :: seen) rest)
      else .error (.notDistinguishable "unique filter can't compare multiple types")

def unique : Filter := fun d args => do
  let items ← list "unique" d
  match items with
  | [] => return .list []
  | sample :: _ =>
    let caseSensitive ← withDefault "unique" "case_sensitive" .bool Data.bool? args false
    let field ← withDefault "unique" "attribute" .string Data.string? args ""
    let sample ← attributeOf field sample
    let keyOf ← distinction caseSensitive sample
    return .list (← uniqueItems field sample keyOf [] items)

/-- A position in a list of some length; a negative one counts from the end. -/
def position (length : Nat) (d : Double) : Nat :=
  let i := if d.isNegative && !d.isZero then ((Double.ofInt length).add d) else d
  i.truncate.toNat

def slice : Filter := fun d args => do
  let items ← list "slice" d
  if items.isEmpty then return .list []
  let start ← optional "slice" "start" .double Data.double? args
  let stop ← optional "slice" "end" .double Data.double? args
  let start := (start.map (position items.length)).getD 0
  let stop := min ((stop.map (position items.length)).getD items.length) items.length
  return .list ((items.take stop).drop start)

/-- The field name that a filter cannot do without. -/
def requiredAttribute (filter : String) (args : Fields) : Except FilterFault String := do
  match ← optional filter "attribute" .string Data.string? args with
  | some name => return name
  | none => throw (.missingArgument filter "attribute")

/-- Puts an item behind the others under a name. -/
def addTo : List (String × List Data) → String → Data → List (String × List Data)
  | [], name, d => [(name, [d])]
  | (n, items) :: rest, name, d =>
    if n == name then (n, items ++ [d]) :: rest else (n, items) :: addTo rest name d

def groupBy : Filter := fun d args => do
  let items ← list "group_by" d
  if items.isEmpty then return .object []
  let field ← requiredAttribute "group_by" args
  let groups := items.foldl (fun groups item =>
    match Data.at? field item with
    | none | some .null => groups
    | some (.string s) => addTo groups s item
    | some part => addTo groups part.json item) []
  return .object (groups.map fun (name, items) => (name, .list items))

def filterItems : Filter := fun d args => do
  let items ← list "filter" d
  if items.isEmpty then return .list []
  let field ← requiredAttribute "filter" args
  let wanted := (args.get? "value").getD .null
  return .list (items.filter fun item =>
    let part := (Data.at? field item).getD .null
    if wanted.same .null then !part.same .null else part.same wanted)

def map : Filter := fun d args => do
  let items ← list "map" d
  if items.isEmpty then return .list []
  let field ← requiredAttribute "map" args
  return .list (items.filterMap fun item =>
    (Data.at? field item).filter (!·.same .null))

def concat : Filter := fun d args => do
  let items ← list "concat" d
  match args.get? "with" with
  | none => throw .nothingToConcat
  | some (.list more) => return .list (items ++ more)
  | some other => return .list (items ++ [other])

def lists : List (String × Filter) :=
  [("first", first), ("last", last), ("nth", nth), ("join", join), ("sort", sort),
    ("unique", unique), ("slice", slice), ("group_by", groupBy), ("filter", filterItems),
    ("map", map), ("concat", concat)]

end Schemata.Template.Filter
