import Schemata.Text.Property.Break

/-!
# Grapheme clusters

The characters that a reader sees as one: a base with the marks on it, a line end of two
characters, a syllable of jamo, a conjunct of consonants, a pair of regional indicators, and
pictures joined to one.
-/

namespace Schemata.Text

inductive ClusterClass where
  | other | control | carriageReturn | lineFeed | extend | joiner | regional | prepended
  | spacing | picture | consonant | leading | vowel | trailing | openSyllable | closedSyllable
deriving DecidableEq, Repr

namespace ClusterClass

def classes : List (ClusterClass × CodeSet) :=
  [(.carriageReturn, Break.carriageReturn), (.lineFeed, Break.lineFeed), (.joiner, Break.joiner),
    (.control, Break.controls), (.extend, Break.extenders),
    (.regional, Flag.regionalIndicator.chars), (.prepended, Break.prepended),
    (.spacing, Break.spacingMarks), (.picture, Flag.extendedPictographic.chars),
    (.consonant, Break.conjunctConsonants), (.leading, Break.leadingJamo),
    (.vowel, Break.vowelJamo), (.trailing, Break.trailingJamo),
    (.openSyllable, Break.openSyllables), (.closedSyllable, Break.closedSyllables)]

def of (c : Char) : ClusterClass :=
  if 0x20 ≤ c.toNat && c.toNat < 0x7F then .other
  else ((classes.find? (·.2.contains c.toNat)).map (·.1)).getD .other

end ClusterClass

/-- How far a picture is on the way to another one that is joined to it. -/
inductive Joining where
  | none | picture | joined
deriving DecidableEq, Repr

/-- How far a consonant is on the way to another one that is joined to it. -/
inductive Conjoining where
  | none | consonant | linked
deriving DecidableEq, Repr

/-- What the characters so far mean to the next one. -/
structure ClusterState where
  last : ClusterClass := .control
  /-- Whether the last characters are an odd number of regional indicators. -/
  unpaired : Bool := false
  joining : Joining := .none
  conjoining : Conjoining := .none

namespace ClusterState

/-- The state after one more character. -/
def after (s : ClusterState) (c : Char) : ClusterState :=
  let k := ClusterClass.of c
  { last := k
    unpaired := k == .regional && !s.unpaired
    joining :=
      match k, s.joining with
      | .picture, _ => .picture
      | .extend, .picture => .picture
      | .joiner, .picture => .joined
      | _, _ => .none
    conjoining :=
      if k == .consonant then .consonant
      else if Break.conjunctLinkers.contains c.toNat then
        if s.conjoining == .none then .none else .linked
      else if Break.conjunctExtenders.contains c.toNat then s.conjoining
      else .none }

/-- Whether the next character belongs to the last one. -/
def joins (s : ClusterState) (next : ClusterClass) : Bool :=
  match s.last, next with
  | .carriageReturn, .lineFeed => true
  | .carriageReturn, _ | .lineFeed, _ | .control, _ => false
  | _, .carriageReturn | _, .lineFeed | _, .control => false
  | .leading, .leading | .leading, .vowel | .leading, .openSyllable
  | .leading, .closedSyllable => true
  | .openSyllable, .vowel | .vowel, .vowel | .openSyllable, .trailing | .vowel, .trailing
  | .closedSyllable, .trailing | .trailing, .trailing => true
  | _, .extend | _, .joiner | _, .spacing | .prepended, _ => true
  | _, .consonant => s.conjoining == .linked
  | .joiner, .picture => s.joining == .joined
  | .regional, .regional => s.unpaired
  | _, _ => false

end ClusterState

/-- Splits characters into clusters; `cluster` is the one so far, last character first. -/
def clustersFrom (cluster : List Char) (s : ClusterState) : List Char → List (List Char)
  | [] => [cluster.reverse]
  | c :: rest =>
    if s.joins (ClusterClass.of c) then clustersFrom (c :: cluster) (s.after c) rest
    else cluster.reverse :: clustersFrom [c] (s.after c) rest

/-- The clusters of a text. -/
def graphemes (s : String) : List String :=
  match s.toList with
  | [] => []
  | c :: rest => (clustersFrom [c] (({} : ClusterState).after c) rest).map String.ofList

end Schemata.Text
