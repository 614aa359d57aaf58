import Schemata.Toml.Value

/-!
# TOML documents

A document is a sequence of lines: headers, keys with values, comments. A `Draft` is the document
as far as it is read: the root table, and the table under the last header, which is put into the
root when the next header comes.
-/

namespace Schemata.Toml

structure Draft where
  root : Entries := []
  /-- The path of the last header; none for the lines in front of all headers. -/
  path : List Key := []
  /-- Whether the last header has double brackets. -/
  isElement : Bool := false
  span : Option Span := none
  entries : Entries := []

/-- Why a header or a key is refused as given already. -/
def given (path : List Key) (key : Key) : Cause :=
  .duplicateKey (writeKey key.text) (some (path.map (·.text)))

/-- Changes the entries of the table at a path, and answers what the change answers. Tables that
are missing on the way are made. A key with dots enters no table that has a header of its own. -/
def alterAt (isDotted : Bool) (change : Origin → Entries → Except Cause (Entries × β))
    (before : List String) (origin : Origin) : List Key → Entries → Except Cause (Entries × β)
  | [], entries => change origin entries
  | k :: path, entries => do
    let within (span : Option Span) (origin : Origin) (inner : Entries) :
        Except Cause (Item × β) := do
      let (inner, b) ← alterAt isDotted change (k.text :: before) origin path inner
      return (.table span origin inner, b)
    let (item, b) ← match entries.get? k.text with
      | none => within none (if isDotted then .dotted else .implied) []
      | some (.table span origin inner) =>
        if isDotted && origin == .header then throw (.duplicateKey k.text none)
        else within span origin inner
      | some (.tables elements) =>
        match elements.getLast? with
        | some (.table span origin inner) => do
          let (last, b) ← within span origin inner
          pure (.tables (elements.dropLast ++ [last]), b)
        | _ => throw (.notATable ((k.text :: before).reverse) "array of tables")
      | some other => throw (.notATable ((k.text :: before).reverse) other.kind)
    return (entries.set k item, b)

namespace Draft

/-- Puts the table under the last header into the root. -/
def close (d : Draft) : Except Cause Draft :=
  match d.path.getLast? with
  | none => .ok { root := d.entries }
  | some last => do
    let table := Item.table d.span .header d.entries
    let (root, _) ← alterAt false (fun _ entries =>
      match d.isElement, entries.get? last.text with
      | true, some (.tables elements) => .ok (entries.set last (.tables (elements ++ [table])), ())
      | true, none => .ok (entries.set last (.tables [table]), ())
      | true, some _ => .error (given d.path.dropLast last)
      | false, _ => .ok (entries.set last table, ())) [] .header d.path.dropLast d.root
    return { root }

/-- Starts the table under a header. A table that only longer headers made is taken up. -/
def openTable (d : Draft) (path : List Key) (last : Key) (span : Span) : Except Cause Draft := do
  let d ← d.close
  let (root, entries) ← alterAt false (fun _ entries =>
    match entries.get? last.text with
    | none => .ok (entries, [])
    | some (.table _ .implied inner) => .ok (entries.erase last.text, inner)
    | some _ => .error (given path last)) [] .header path d.root
  return { root, path := path ++ [last], span := some span, entries }

/-- Starts one more table under a header in double brackets. -/
def openElement (d : Draft) (path : List Key) (last : Key) (span : Span) :
    Except Cause Draft := do
  let d ← d.close
  let (root, _) ← alterAt false (fun _ entries =>
    match entries.get? last.text with
    | none => .ok (entries.set last (.tables []), ())
    | some (.tables _) => .ok (entries, ())
    | some _ => .error (given path last)) [] .header path d.root
  return { root, path := path ++ [last], isElement := true, span := some span }

/-- Puts an item into the table under the last header. A table that a longer header made takes
no item by a key with dots. -/
def put (d : Draft) (path : List Key) (last : Key) (item : Item) : Except Cause Draft := do
  let (entries, _) ← alterAt true (fun origin entries =>
    if (origin == .dotted) == path.isEmpty then .error (.duplicateKey last.text none)
    else
      match entries.get? last.text with
      | some _ => .error (.duplicateKey last.text (some (d.path.map (·.text))))
      | none => .ok (entries ++ [(last, item)], ())) [] .header path d.entries
  let span := match d.span, item.span? with
    | some header, some value => some { start := header.start, stop := value.stop }
    | span, _ => span
  return { d with span, entries }

end Draft

namespace Reader

/-- Makes the next draft of what is read, or refuses where it begins. -/
def drafting (r : Reader α) (step : α → Except Cause Draft) : Reader Draft :=
  checked r fun a => (step a).mapError fun cause => { cause := some cause }

/-- A key and its value. -/
def pairLine (d : Draft) : Reader Draft :=
  let pair : Reader (List Key × Key × Item) := do
    let (path, last) ← key
    settle do
      equals
      blanks
      let item ← value
      lineRest
      return (path, last, item)
  drafting pair fun (path, last, item) => d.put path last item

/-- A header between brackets. -/
def headerLine (left right : String)
    (step : List Key → Key → Span → Except Cause Draft) : Reader Draft :=
  let header : Reader (List Key × Key) := do
    lit left
    let k ← settle key
    wanting (.text right) (wanting (.text ".") (settle (lit right)))
    settle lineRest
    return k
  drafting (spanned header) fun ((path, last), span) => step path last span

def tableLine (d : Draft) : Reader Draft :=
  named .tableHeader do
    if (← ahead (counted 2 2 fun _ => true)) == ['[', '['] then
      headerLine "[[" "]]" d.openElement
    else headerLine "[" "]" d.openTable

def commentLine : Reader Unit := do
  comment
  lineEnd

/-- One line, and the white space in front of the next. -/
def line (d : Draft) : Reader Draft := do
  let d ← match ← next? with
    | none => refuse
    | some '#' => do
      settle commentLine
      pure d
    | some '[' => settle (tableLine d)
    | some '\n' | some '\r' => do
      newline
      pure d
    | some _ => settle (pairLine d)
  blanks
  return d

/-- Reads at most so many lines. -/
def lines : Nat → Draft → Reader Draft
  | 0, d => pure d
  | n + 1, d => do
    match ← maybe (line d) with
    | none => return d
    | some d => lines n d

/-- A whole document. -/
def document : Reader Entries := do
  discard (maybe (lit "\uFEFF"))
  blanks
  let d ← fun p => lines (p.rest.length + 1) {} p
  atEnd
  fun p =>
    match d.close with
    | .ok d => .done d.root p
    | .error cause => .refused true { cause := some cause } p

end Reader

end Schemata.Toml
