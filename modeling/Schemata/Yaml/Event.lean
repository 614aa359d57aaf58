import Schemata.Yaml.Token.Lexer

/-!
# Events

The structure of a document as a sequence of events: scalars, aliases, and the starts and ends of
collections. A `Reader` is a machine with a stack: its state says what the tokens to come may be,
and the stack what follows the node being read.
-/

namespace Schemata.Yaml

/-- What stands in front of a node. -/
structure Properties where
  anchor : Option String := none
  tag : Option TagText := none
deriving Repr, Inhabited

inductive Event.Kind where
  | documentStart | documentEnd | streamEnd
  | alias (name : String)
  | scalar (properties : Properties) (text : String) (style : ScalarStyle)
  | seqStart (properties : Properties)
  | mapStart (properties : Properties)
  | seqEnd | mapEnd
deriving Repr, Inhabited

structure Event where
  kind : Event.Kind
  mark : Mark
deriving Repr, Inhabited

namespace Event

/-- What the tokens to come belong to. Collections know where they began, and bracketed ones
whether an item has been read. -/
inductive State where
  | streamStart
  | documentStart (isFirst : Bool)
  | documentContent
  | documentEnd
  | blockNode
  | blockEntry (since : Mark)
  | indentlessEntry
  | blockKey (since : Mark)
  | blockValue (since : Mark)
  | flowItem (since : Mark) (isFirst : Bool)
  | pairKey (since : Mark)
  | pairValue (since : Mark)
  | pairEnd (since : Mark)
  | flowKey (since : Mark) (isFirst : Bool)
  | flowValue (since : Mark)
  | flowNoValue (since : Mark)
  | done
deriving Repr, Inhabited

structure Reader where
  lexer : Lexer
  state : State := .streamStart
  stack : List State := []
  /-- What the handles of tags stand for. -/
  handles : List (TagText × TagText) := []
deriving Inhabited

abbrev Read := StateT Reader (Except Error)

namespace Read

def peek : Read Token := fun r => do
  let (token, lexer) ← r.lexer.peek
  return (token, { r with lexer })

def take : Read Unit := modify fun r => { r with lexer := r.lexer.take }

def goto (state : State) : Read Unit := modify fun r => { r with state }

/-- Reads a node next, and then goes on in the given state. -/
def call (after : State) : Read Unit := modify fun r => { r with stack := after :: r.stack }

/-- Goes on with what follows the node just read. -/
def return_ : Read Unit := modify fun r =>
  { r with state := r.stack.head?.getD .done, stack := r.stack.tail }

def fail {α : Type} (problem : Problem) (spot : Mark) (context : Option (Activity × Mark)) :
    Read α :=
  throw (.malformed problem spot context)

/-- A scalar where nothing is written. -/
def empty (state : State) (mark : Mark) : Read Event := do
  goto state
  return { kind := .scalar {} "" .plain, mark }

end Read

open Read

/-! ## Directives -/

/-- The handles that need no directive. -/
def defaultHandles : List (TagText × TagText) :=
  [([bang], [bang]), ([bang, bang], octets "tag:yaml.org,2002:".toList)]

/-- Reads directives up to something else. -/
def directives : Nat → Bool → List (TagText × TagText) → Read (List (TagText × TagText))
  | 0, _, handles => return handles
  | fuel + 1, versionSeen, handles => do
    let token ← peek
    match token.kind with
    | .versionDirective major minor =>
      if versionSeen then fail .duplicateVersion token.start none
      if major != 1 || (minor != 1 && minor != 2) then fail .incompatible token.start none
      take
      directives fuel true handles
    | .tagDirective handle meaning =>
      if handles.any (·.1 == handle) then fail .duplicateHandle token.start none
      take
      directives fuel versionSeen (handles ++ [(handle, meaning)])
    | _ => return handles

/-- Reads the directives of a document and sets its handles. -/
def readDirectives : Read Unit := do
  let fuel := (← get).lexer.cursor.rest.length + (← get).lexer.queue.length + 1
  let given ← directives fuel false []
  let missing := defaultHandles.filter fun d => !given.any (·.1 == d.1)
  modify fun r => { r with handles := given ++ missing }

/-! ## Nodes -/

/-- The tag that a handle and a suffix spell. -/
def resolveTag (since : Mark) (handle suffix : TagText) (mark : Mark) : Read TagText := do
  if handle.isEmpty then return suffix
  match (← get).handles.find? (·.1 == handle) with
  | some (_, meaning) => return meaning ++ suffix
  | none => fail .undefinedHandle mark (some (.node, since))

/-- What is read in front of a node: the properties, with the tag as it is written. -/
structure Front where
  anchor : Option String := none
  tag : Option (TagText × TagText × Mark) := none

/-- Reads an anchor, if one stands here. -/
def readAnchor (f : Front) : Read Front := do
  let token ← peek
  match token.kind with
  | .anchor name => take; return { f with anchor := some name }
  | _ => return f

/-- Reads a tag, if one stands here. -/
def readTag (f : Front) : Read Front := do
  let token ← peek
  match token.kind with
  | .tag handle suffix => take; return { f with tag := some (handle, suffix, token.start) }
  | _ => return f

/-- Reads the anchor and the tag in front of a node, in either order. -/
def readProperties (since : Mark) : Read Properties := do
  let f ← readAnchor {}
  let f ← readTag f
  let f ← if f.anchor.isNone then readAnchor f else pure f
  let _ ← peek
  let tag ← match f.tag with
    | some (handle, suffix, mark) => some <$> resolveTag since handle suffix mark
    | none => pure none
  return { anchor := f.anchor, tag }

/-- Starts a collection that is read in the given state. -/
def openCollection (kind : Event.Kind) (mark : Mark) (state : State) : Read Event := do
  take
  goto state
  return { kind, mark }

/-- Reads the first event of a node. Blocks and sequences without indentation are allowed only
where `block` and `indentless` say. -/
def readNode (block indentless : Bool) : Read Event := do
  let token ← peek
  let since := token.start
  match token.kind with
  | .alias name =>
    return_
    take
    return { kind := .alias name, mark := since }
  | _ =>
    let properties ← readProperties since
    let token ← peek
    match token.kind with
    | .blockEntry =>
      if indentless then
        goto .indentlessEntry
        return { kind := .seqStart properties, mark := since }
      else noContent properties since token
    | .scalar text style =>
      return_
      take
      return { kind := .scalar properties text style, mark := since }
    | .flowSeqStart => openCollection (.seqStart properties) since (.flowItem token.start true)
    | .flowMapStart => openCollection (.mapStart properties) since (.flowKey token.start true)
    | .blockSeqStart =>
      if block then openCollection (.seqStart properties) since (.blockEntry token.start)
      else noContent properties since token
    | .blockMapStart =>
      if block then openCollection (.mapStart properties) since (.blockKey token.start)
      else noContent properties since token
    | _ => noContent properties since token
where
  /-- Nothing may be written after an anchor or a tag. -/
  noContent (properties : Properties) (since : Mark) (token : Token) : Read Event := do
    if properties.anchor.isSome || properties.tag.isSome then
      return_
      return { kind := .scalar properties "" .plain, mark := since }
    else fail .noContent token.start (some (if block then .blockNode else .flowNode, since))

/-! ## Documents -/

def endsDirectives : Token.Kind → Bool
  | .versionDirective .. | .tagDirective .. | .documentStart | .documentEnd | .streamEnd => true
  | _ => false

/-- Moves over the marks that end documents. -/
def skipDocumentEnds : Nat → Read Unit
  | 0 => return
  | fuel + 1 => do
    if (← peek).kind matches .documentEnd then
      take
      skipDocumentEnds fuel

/-- The first document needs no mark at its start. -/
def readDocumentStart (isFirst : Bool) : Read Event := do
  if !isFirst then skipDocumentEnds ((← get).lexer.cursor.rest.length + 4)
  let token ← peek
  let isExplicit := match token.kind with
    | .versionDirective .. | .tagDirective .. | .documentStart => true
    | _ => false
  if token.kind matches .streamEnd then
    goto .done
    take
    return { kind := .streamEnd, mark := token.start }
  else if isFirst && !isExplicit then
    readDirectives
    call .documentEnd
    goto .blockNode
    return { kind := .documentStart, mark := token.start }
  else
    readDirectives
    let next ← peek
    if !(next.kind matches .documentStart) then fail .noDocumentStart next.start none
    call .documentEnd
    goto .documentContent
    take
    return { kind := .documentStart, mark := token.start }

def readDocumentContent : Read Event := do
  let token ← peek
  if endsDirectives token.kind then
    return_
    return { kind := .scalar {} "" .plain, mark := token.start }
  else readNode true false

def readDocumentEnd : Read Event := do
  let token ← peek
  if token.kind matches .documentEnd then take
  modify fun r => { r with handles := [], state := .documentStart false }
  return { kind := .documentEnd, mark := token.start }

/-! ## Blocks -/

/-- Ends a collection with the token that was looked at. -/
def close (kind : Event.Kind) (mark : Mark) : Read Event := do
  return_
  take
  return { kind, mark }

def readBlockEntry (since : Mark) : Read Event := do
  let token ← peek
  match token.kind with
  | .blockEntry =>
    take
    match (← peek).kind with
    | .blockEntry | .blockEnd => empty (.blockEntry since) token.stop
    | _ => call (.blockEntry since); readNode true false
  | .blockEnd => close .seqEnd token.start
  | _ => fail .noDash token.start (some (.blockCollection, since))

def readIndentlessEntry : Read Event := do
  let token ← peek
  match token.kind with
  | .blockEntry =>
    take
    match (← peek).kind with
    | .blockEntry | .key | .value | .blockEnd => empty .indentlessEntry token.stop
    | _ => call .indentlessEntry; readNode true false
  | _ =>
    return_
    return { kind := .seqEnd, mark := token.start }

def readBlockKey (since : Mark) : Read Event := do
  let token ← peek
  match token.kind with
  | .key =>
    take
    match (← peek).kind with
    | .key | .value | .blockEnd => empty (.blockValue since) token.stop
    | _ => call (.blockValue since); readNode true true
  | .blockEnd => close .mapEnd token.start
  | _ => fail .noKey token.start (some (.blockMapping, since))

def readBlockValue (since : Mark) : Read Event := do
  let token ← peek
  match token.kind with
  | .value =>
    take
    match (← peek).kind with
    | .key | .value | .blockEnd => empty (.blockKey since) token.stop
    | _ => call (.blockKey since); readNode true true
  | _ => empty (.blockKey since) token.start

/-! ## Brackets -/

/-- Moves over the comma that an item after the first one needs. -/
def readComma (isFirst : Bool) (problem : Problem) (context : Activity × Mark) : Read Unit := do
  if !isFirst then
    let token ← peek
    if token.kind matches .flowEntry then take else fail problem token.start (some context)

/-- Reads the next item of a bracketed sequence; a key in it starts a mapping of one entry. -/
def readFlowItem (since : Mark) (isFirst : Bool) : Read Event := do
  let token ← peek
  if token.kind matches .flowSeqEnd then close .seqEnd token.start
  else
    readComma isFirst .noCommaOrBracket (.flowSequence, since)
    let token ← peek
    match token.kind with
    | .key =>
      take
      goto (.pairKey since)
      return { kind := .mapStart {}, mark := token.start }
    | .flowSeqEnd => close .seqEnd token.start
    | _ => call (.flowItem since false); readNode false false

/-- A pair without a key gives up the token after it as well. -/
def readPairKey (since : Mark) : Read Event := do
  let token ← peek
  match token.kind with
  | .value | .flowEntry | .flowSeqEnd =>
    take
    empty (.pairValue since) token.stop
  | _ => call (.pairValue since); readNode false false

def readPairValue (since : Mark) : Read Event := do
  let token ← peek
  match token.kind with
  | .value =>
    take
    let token ← peek
    match token.kind with
    | .flowEntry | .flowSeqEnd => empty (.pairEnd since) token.start
    | _ => call (.pairEnd since); readNode false false
  | _ => empty (.pairEnd since) token.start

def readPairEnd (since : Mark) : Read Event := do
  let token ← peek
  goto (.flowItem since false)
  return { kind := .mapEnd, mark := token.start }

def readFlowKey (since : Mark) (isFirst : Bool) : Read Event := do
  let token ← peek
  if token.kind matches .flowMapEnd then close .mapEnd token.start
  else
    readComma isFirst .noCommaOrBrace (.flowMapping, since)
    let token ← peek
    match token.kind with
    | .key =>
      take
      let token ← peek
      match token.kind with
      | .value | .flowEntry | .flowMapEnd => empty (.flowValue since) token.start
      | _ => call (.flowValue since); readNode false false
    | .flowMapEnd => close .mapEnd token.start
    | _ => call (.flowNoValue since); readNode false false

def readFlowValue (since : Mark) : Read Event := do
  let token ← peek
  match token.kind with
  | .value =>
    take
    let token ← peek
    match token.kind with
    | .flowEntry | .flowMapEnd => empty (.flowKey since false) token.start
    | _ => call (.flowKey since false); readNode false false
  | _ => empty (.flowKey since false) token.start

def readFlowNoValue (since : Mark) : Read Event := do
  empty (.flowKey since false) (← peek).start

/-! ## The machine -/

/-- The next event. -/
def next : Read Event := do
  match (← get).state with
  | .streamStart =>
    let _ ← peek
    take
    readDocumentStart true
  | .documentStart isFirst => readDocumentStart isFirst
  | .documentContent => readDocumentContent
  | .documentEnd => readDocumentEnd
  | .blockNode => readNode true false
  | .blockEntry since => readBlockEntry since
  | .indentlessEntry => readIndentlessEntry
  | .blockKey since => readBlockKey since
  | .blockValue since => readBlockValue since
  | .flowItem since isFirst => readFlowItem since isFirst
  | .pairKey since => readPairKey since
  | .pairValue since => readPairValue since
  | .pairEnd since => readPairEnd since
  | .flowKey since isFirst => readFlowKey since isFirst
  | .flowValue since => readFlowValue since
  | .flowNoValue since => readFlowNoValue since
  | .done => return { kind := .streamEnd, mark := (← get).lexer.mark }

def Reader.ofChars (chars : List Char) : Reader := { lexer := Lexer.ofChars chars }

end Event

end Schemata.Yaml
