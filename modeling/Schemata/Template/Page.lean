import Schemata.Template.Fault

/-!
# Pages

A `Page` is what a rendering has written so far, and the frames that hold its variables, the
innermost first. An `Action` works on a page. A fault stops an action and leaves the page as it
stands: whoever recovers from it finds the frames that were open then.
-/

namespace Schemata.Template

/-- A loop under way. -/
structure Loop where
  /-- The name of the key, in a loop over an object. -/
  key : Option String := none
  name : String
  /-- The items, with their keys in a loop over an object. -/
  items : List (String × Data)
  /-- The number of rounds. A text has a round for each of its characters, but its items are
  clusters: the last rounds may be without one. -/
  count : Nat
  /-- The number of rounds that are over. -/
  index : Nat := 0
  signal : Signal := .proceed

namespace Loop

def item? (l : Loop) : Option (String × Data) := l.items[l.index]?

/-- The next round, which goes on whatever ended the last one. -/
def next (l : Loop) : Loop := { l with index := l.index + 1, signal := .proceed }

end Loop

/-- What opened a frame. -/
inductive Opening where
  /-- A template, rendered by itself or included. -/
  | template
  /-- The call of a macro, under the name of the file it comes from. -/
  | call (file name : String)
  | loop (loop : Loop)

/-- Variables that are set, and what opened the frame. -/
structure Frame where
  opening : Opening := .template
  vars : Fields := []

namespace Frame

def loop? (f : Frame) : Option Loop :=
  match f.opening with
  | .loop l => some l
  | _ => none

def call? (f : Frame) : Option (String × String) :=
  match f.opening with
  | .call file name => some (file, name)
  | _ => none

def set (f : Frame) (name : String) (d : Data) : Frame := { f with vars := f.vars.insert name d }

/-- The frame without its variables. -/
def cleared (f : Frame) : Frame := { f with vars := [] }

end Frame

structure Page where
  text : String := ""
  frames : List Frame := [{}]

namespace Page

def write (page : Page) (s : String) : Page := { page with text := page.text ++ s }

def push (page : Page) (f : Frame) : Page := { page with frames := f :: page.frames }

def pop (page : Page) : Page := { page with frames := page.frames.tail }

/-- The innermost frame. -/
def top? (page : Page) : Option Frame := page.frames.head?

/-- Sets a variable in the innermost frame. -/
def set (page : Page) (name : String) (d : Data) : Page :=
  { page with frames := page.frames.modifyHead (·.set name d) }

/-- Sets a variable in the first of the frames that no loop opened. -/
def setOutermost (name : String) (d : Data) : List Frame → List Frame
  | [] => []
  | f :: rest =>
    if f.loop?.isSome then f :: setOutermost name d rest else f.set name d :: rest

/-- Changes the loop of the innermost frame. -/
def setLoop (page : Page) (l : Loop) : Page :=
  { page with frames := page.frames.modifyHead ({ · with opening := .loop l }) }

/-- What the innermost loop was told. -/
def signal (page : Page) : Signal := (page.top?.bind Frame.loop?).elim .proceed (·.signal)

end Page

/-- Works on a page, and may stop with a fault. -/
abbrev Action := ExceptT Fault (StateM Page)

namespace Action

def fail (fault : Fault) : Action α := throw fault

/-- What comes of an action; a fault does not stop the whole. -/
def attempt (action : Action α) : Action (Except Fault α) := fun page =>
  let (outcome, page) := action page
  (.ok outcome, page)

/-- Wraps the fault of an action. -/
def wrapped (wrap : Fault → Fault) (action : Action α) : Action α := fun page =>
  let (outcome, page) := action page
  (outcome.mapError wrap, page)

/-- An action whose outcome is settled without the page. -/
def settled (outcome : Except Fault α) : Action α := fun page => (outcome, page)

def write (s : String) : Action Unit := modify (·.write s)

/-- What an action writes, which is not written to the page itself. -/
def captured (action : Action Unit) : Action String := fun page =>
  let (outcome, after) := action { page with text := "" }
  (outcome.map fun _ => after.text, { after with text := page.text })

/-- Runs an action in a frame of its own. -/
def inFrame (f : Frame) (action : Action Unit) : Action Unit := do
  modify (·.push f)
  action
  modify Page.pop

/-- Tells the innermost loop how its round ends. -/
def leave (signal : Signal) : Action Unit := do
  match (← get).top?.bind Frame.loop? with
  | some l => modify (·.setLoop { l with signal })
  | none => fail (.notInLoop signal)

/-- Goes on to the next round of the innermost loop. What the round has set is forgotten. -/
def nextRound : Action Unit := do
  modify fun page => { page with frames := page.frames.modifyHead Frame.cleared }
  match (← get).top?.bind Frame.loop? with
  | some l => modify (·.setLoop l.next)
  | none => fail (.notInLoop .proceed)

end Action

end Schemata.Template
