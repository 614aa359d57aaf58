import Schemata.Yaml.Event
import Schemata.Yaml.Scalar
import Schemata.Text.Utf8
import Schemata.Yaml.Source

/-!
# Documents

`Document.read` collects the events of a document, and `Document.value` builds the value they
describe. An alias goes back to the events after its anchor. Building stops at the first fault in
document order: a key that occurs twice in its mapping, a scalar that does not fit its tag,
collections nested more than 128 deep, or the fault that ended the reading.
-/

namespace Schemata.Yaml

/-- What a node can be once its aliases are resolved to anchors. -/
inductive Piece where
  | alias (anchor : Nat)
  | scalar (tag : Option TagText) (text : String) (style : ScalarStyle)
  | seqStart (tag : Option TagText)
  | mapStart (tag : Option TagText)
  | seqEnd | mapEnd
deriving Repr, Inhabited

structure Document where
  pieces : Array (Piece × Mark) := #[]
  /-- The position of the piece after each anchor, by the number of the anchor. The latest entry
  of a number counts. -/
  anchors : List (Nat × Nat) := []
  fault : Option Error := none
deriving Inhabited

namespace Document

/-! ## Reading -/

/-- The names of anchors with their numbers. -/
abbrev Names := List (String × Nat)

/-- Notes an anchor before the next piece. Its number is the count of names so far, so an anchor
named again may share its number with a later one. -/
def noteAnchor (d : Document) (names : Names) (name : Option String) : Document × Names :=
  match name with
  | none => (d, names)
  | some name =>
    let number := names.length
    ({ d with anchors := (number, d.pieces.size) :: d.anchors },
      (name, number) :: names.filter (·.1 != name))

def push (d : Document) (piece : Piece) (mark : Mark) : Document :=
  { d with pieces := d.pieces.push (piece, mark) }

/-- Reads events up to the end of a document. The result tells whether a document was there. -/
def readFrom : Nat → Document → Names → Event.Reader → Document × Option Event.Reader
  | 0, d, _, _ => (d, none)
  | fuel + 1, d, names, r =>
    match Event.next r with
    | .error e => ({ d with fault := some e }, none)
    | .ok (event, r) =>
      let opened (p : Properties) (piece : Piece) :=
        let (d, names) := d.noteAnchor names p.anchor
        readFrom fuel (d.push piece event.mark) names r
      match event.kind with
      | .documentStart => readFrom fuel d names r
      | .documentEnd | .streamEnd => (d, some r)
      | .alias name =>
        match names.lookup name with
        | some number => readFrom fuel (d.push (.alias number) event.mark) names r
        | none => ({ d with fault := some (.unknownAnchor event.mark) }, none)
      | .scalar p text style => opened p (.scalar p.tag text style)
      | .seqStart p => opened p (.seqStart p.tag)
      | .mapStart p => opened p (.mapStart p.tag)
      | .seqEnd => readFrom fuel (d.push .seqEnd event.mark) names r
      | .mapEnd => readFrom fuel (d.push .mapEnd event.mark) names r

/-- A bound on the events of a text, since no character makes more than a few. -/
def eventBound (r : Event.Reader) : Nat := 16 * r.lexer.cursor.rest.length + 64

def read (r : Event.Reader) : Document × Option Event.Reader := readFrom (eventBound r) {} [] r

/-- Whether anything comes after the document that was read: another one, or a fault. -/
def hasMore (r : Event.Reader) : Bool :=
  match Event.next r with
  | .ok (event, _) => !(event.kind matches .streamEnd)
  | .error _ => true

/-! ## Building -/

/-- Where building stands: the position of the next piece, and the aliases followed so far. -/
structure Progress where
  position : Nat := 0
  jumps : Nat := 0

/-- The name of a local tag, without its mark; the mark alone is its own name. -/
def localTag? (tag : Option TagText) : Option String :=
  match tag with
  | some (0x21 :: name) => (Text.Utf8.decode? (if name.isEmpty then [0x21] else name)).map bare
  | _ => none
where
  bare (name : String) : String :=
    match name.toList with
    | '!' :: c :: rest => String.ofList (c :: rest)
    | _ => name

/-- The piece at the current position. -/
def pieceAt (d : Document) (p : Progress) : Except Error (Piece × Mark) :=
  match d.pieces[p.position]? with
  | some piece => .ok piece
  | none => .error (d.fault.getD .tooManyAliases)

/-- Follows an alias, which may happen a hundred times for each piece. -/
def jump (d : Document) (anchor : Nat) (p : Progress) : Except Error Progress :=
  if d.pieces.size * 100 < p.jumps + 1 then .error .tooManyAliases
  else .ok { position := (d.anchors.lookup anchor).getD 0, jumps := p.jumps + 1 }

/-- The step to the value of a key, named by the key if it is a scalar. -/
def stepOf : Piece → Step
  | .scalar _ text _ => .field text
  | _ => .unnamed

mutual

/-- Builds the value at the current position. `depth` collections may be opened, and `tagged`
tells that the tag in front has been dealt with. -/
def build (d : Document) : Nat → List Step → Nat → Bool → Progress →
    Except Error (Value × Progress)
  | 0, _, _, _, _ => .error .tooManyAliases
  | fuel + 1, path, depth, tagged, p => do
    let (piece, mark) ← d.pieceAt p
    let after := { p with position := p.position + 1 }
    match piece with
    | .alias anchor =>
      let (v, q) ← d.build fuel path depth false (← d.jump anchor after)
      return (v, { q with position := after.position })
    | .scalar tag text style =>
      match if tagged then none else localTag? tag with
      | some name => d.buildTagged fuel path depth name p
      | none =>
        match resolveScalar (if tagged then none else tag) text style with
        | .ok v => return (v, after)
        | .error reason => .error (.refused reason path mark)
    | .seqStart tag =>
      match if tagged then none else localTag? tag with
      | some name => d.buildTagged fuel path depth name p
      | none =>
        match depth with
        | 0 => .error (.tooDeep mark)
        | depth + 1 =>
          let (items, q) ← d.buildItems fuel path depth 0 after
          return (.seq items, q)
    | .mapStart tag =>
      match if tagged then none else localTag? tag with
      | some name => d.buildTagged fuel path depth name p
      | none =>
        match depth with
        | 0 => .error (.tooDeep mark)
        | depth + 1 =>
          let (entries, q) ← d.buildEntries fuel path depth mark [] after
          return (.map entries, q)
    | .seqEnd | .mapEnd => .error .tooManyAliases

/-- Builds a value under a local tag. -/
def buildTagged (d : Document) : Nat → List Step → Nat → String → Progress →
    Except Error (Value × Progress)
  | 0, _, _, _, _ => .error .tooManyAliases
  | fuel + 1, path, depth, name, p => do
    let (v, q) ← d.build fuel path depth true p
    return (.tagged name v, q)

/-- Builds the items of a sequence from the one with the given index on. -/
def buildItems (d : Document) : Nat → List Step → Nat → Nat → Progress →
    Except Error (List Value × Progress)
  | 0, _, _, _, _ => .error .tooManyAliases
  | fuel + 1, path, depth, index, p => do
    match ← d.pieceAt p with
    | (.seqEnd, _) => return ([], { p with position := p.position + 1 })
    | _ =>
      let (v, q) ← d.build fuel (path ++ [.item index]) depth false p
      let (rest, q) ← d.buildItems fuel path depth (index + 1) q
      return (v :: rest, q)

/-- Builds the entries of a mapping after those built already. A key that is there already is
refused before its value is built. -/
def buildEntries (d : Document) : Nat → List Step → Nat → Mark → List (Value × Value) → Progress →
    Except Error (List (Value × Value) × Progress)
  | 0, _, _, _, _, _ => .error .tooManyAliases
  | fuel + 1, path, depth, since, entries, p => do
    match ← d.pieceAt p with
    | (.mapEnd, _) => return (entries, { p with position := p.position + 1 })
    | (piece, _) =>
      let (key, q) ← d.build fuel path depth false p
      match Entries.key? entries key with
      | some there => .error (.refused (.duplicateKey there) path since)
      | none =>
        let (v, q) ← d.build fuel (path ++ [stepOf piece]) depth false q
        d.buildEntries fuel path depth since (entries ++ [(key, v)]) q

end

/-- Nesting that is allowed. -/
def maxDepth : Nat := 128

/-- A bound on the calls that are open at once: at each depth, one for each sibling before. -/
def callBound (d : Document) : Nat := (maxDepth + 2) * (3 * d.pieces.size + 8)

/-- The value of a document; a document without pieces is null. -/
def value (d : Document) : Except Error Value := do
  if d.pieces.isEmpty && d.fault.isNone then return .null
  let (v, _) ← d.build d.callBound [] maxDepth false {}
  match d.fault with
  | some e => .error e
  | none => return v

end Document

/-- The value of the only document that the octets hold. -/
def Value.ofOctets (octets : List UInt8) : Except Error Value := do
  let (document, rest) := Document.read (Event.Reader.ofChars (← Source.read octets))
  let v ← document.value
  if rest.any Document.hasMore then .error .severalDocuments else return v

end Schemata.Yaml
