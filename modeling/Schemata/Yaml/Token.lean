import Schemata.Yaml.Mark

/-!
# Tokens

The words of a document. `Lexer` turns characters into tokens and `Event.Reader` tokens into
events.
-/

namespace Schemata.Yaml

/-- How a scalar is written. -/
inductive ScalarStyle where
  | plain | singleQuoted | doubleQuoted | literal | folded
deriving DecidableEq, Repr, Inhabited

/-- The text of a tag. Escapes in it may spell octets that are no text. -/
abbrev TagText := List UInt8

inductive Token.Kind where
  | streamStart | streamEnd
  | versionDirective (major minor : Nat)
  | tagDirective (handle meaning : TagText)
  | documentStart | documentEnd
  | blockSeqStart | blockMapStart | blockEnd
  | flowSeqStart | flowSeqEnd | flowMapStart | flowMapEnd
  | blockEntry | flowEntry | key | value
  | alias (name : String)
  | anchor (name : String)
  /-- An empty handle stands before a tag written in full. -/
  | tag (handle suffix : TagText)
  | scalar (text : String) (style : ScalarStyle)
deriving DecidableEq, Repr, Inhabited

structure Token where
  kind : Token.Kind
  start : Mark
  stop : Mark
deriving Repr, Inhabited

end Schemata.Yaml
