import Schemata.Text.Quoted

/-!
# Faults of TOML texts

A `Fault` says what a text fails to be at a place: the innermost rule that was being followed,
what would have been fine there, and the cause if a rule of meaning was broken.
-/

namespace Schemata.Toml

/-- What a stretch of text was read as. -/
inductive Rule where
  | key | tableHeader | array | inlineTable
  | string | basicString | blockString | literalString | literalBlock
  | escape | shortCode | longCode
  | integer | hexadecimal | octal | binary | float
  | dateTime | time | timeOffset
deriving DecidableEq, Repr

def Rule.describe : Rule → String
  | .key => "key"
  | .tableHeader => "table header"
  | .array => "array"
  | .inlineTable => "inline table"
  | .string => "string"
  | .basicString => "basic string"
  | .blockString => "multiline basic string"
  | .literalString => "literal string"
  | .literalBlock => "multiline literal string"
  | .escape => "escape sequence"
  | .shortCode => "unicode 4-digit hex code"
  | .longCode => "unicode 8-digit hex code"
  | .integer => "integer"
  | .hexadecimal => "hexadecimal integer"
  | .octal => "octal integer"
  | .binary => "binary integer"
  | .float => "floating-point number"
  | .dateTime => "date-time"
  | .time => "time"
  | .timeOffset => "time offset"

/-- What would have been fine. -/
inductive Wanted where
  | text (s : String)
  | newline
  | digit
  | leadingDigit
deriving DecidableEq, Repr

def Wanted.describe : Wanted → String
  | .text s => "\x60" ++ s ++ "\x60"
  | .newline => "newline"
  | .digit => "digit"
  | .leadingDigit => "leading digit"

/-- Broken rules of meaning. -/
inductive Cause where
  /-- A key given again; `table` is the path of the table if that is known. -/
  | duplicateKey (key : String) (table : Option (List String))
  | notATable (path : List String) (kind : String)
  | outOfRange
  | tooLarge
  | tooSmall
  | tooDeep
deriving DecidableEq, Repr

def Cause.message : Cause → String
  | .duplicateKey key none => "duplicate key \x60" ++ key ++ "\x60"
  | .duplicateKey key (some []) => "duplicate key \x60" ++ key ++ "\x60 in document root"
  | .duplicateKey key (some path) =>
    "duplicate key \x60" ++ key ++ "\x60 in table \x60" ++ ".".intercalate path ++ "\x60"
  | .notATable path kind =>
    "dotted key \x60" ++ ".".intercalate path ++ "\x60 attempted to extend non-table type (" ++
      kind ++ ")"
  | .outOfRange => "value is out of range"
  | .tooLarge => "number too large to fit in target type"
  | .tooSmall => "number too small to fit in target type"
  | .tooDeep => "recursion limit exceeded"

structure Fault where
  /-- The innermost rule. -/
  rule : Option Rule := none
  wanted : List Wanted := []
  cause : Option Cause := none
deriving DecidableEq, Repr

namespace Fault

/-- Notes a rule that was being followed around the others. -/
def within (rule : Rule) (f : Fault) : Fault := { f with rule := f.rule.or (some rule) }

/-- Notes what else would have been fine. -/
def wanting (w : Wanted) (f : Fault) : Fault := { f with wanted := f.wanted ++ [w] }

def message (f : Fault) : String :=
  let rule := f.rule.toList.map fun r => "invalid " ++ r.describe
  let wanted :=
    if f.wanted.isEmpty then []
    else ["expected " ++ ", ".intercalate (f.wanted.map Wanted.describe)]
  "\n".intercalate (rule ++ wanted ++ f.cause.toList.map Cause.message)

end Fault

end Schemata.Toml
