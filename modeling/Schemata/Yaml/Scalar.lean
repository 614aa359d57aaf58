import Schemata.Number.Numeral
import Schemata.Yaml.Error
import Schemata.Yaml.Token

/-!
# What a scalar says

A plain scalar is null, a boolean, an integer, a float or a string by its spelling; a tag of the
standard types demands one of these of any scalar.
-/

namespace Schemata.Yaml

open Numeral

/-! ## Numerals -/

/-- The value of a numeral with the sign of base marks: `0x`, `0o` and `0b` for bases sixteen,
eight and two. -/
def basedNatural? : List Char → Option Nat
  | '0' :: 'x' :: digits => natural? 16 digits
  | '0' :: 'o' :: digits => natural? 8 digits
  | '0' :: 'b' :: digits => natural? 2 digits
  | _ => none

/-- Whether the text is a decimal numeral with a needless zero in front, which is a string. -/
def isPaddedNumeral (text : List Char) : Bool :=
  let digits := match text with
    | '-' :: rest => rest
    | '+' :: rest => rest
    | rest => rest
  match digits with
  | '0' :: rest => !rest.isEmpty && rest.all Char.isDigit
  | _ => false

/-- The integer a plain scalar spells: a sign, and a decimal numeral or one with a base mark. -/
def plainInteger? (text : List Char) : Option Int :=
  match text with
  | '-' :: rest =>
    (basedNatural? rest <|> (if isPaddedNumeral text then none else natural? 10 rest)).map
      fun n => -(n : Int)
  | '+' :: rest =>
    (basedNatural? rest <|> (if isPaddedNumeral text then none else natural? 10 rest)).map
      Int.ofNat
  | _ =>
    (basedNatural? text <|> (if isPaddedNumeral text then none else natural? 10 text)).map
      Int.ofNat

/-- The float a plain scalar spells; fractions too large to be finite spell none. -/
def float? (text : List Char) : Option Double :=
  let finite (negative : Bool) (rest : List Char) : Option Double :=
    ((fraction? rest).map fun f => Double.ofDecimal negative f.digits f.exponent).filter
      (·.isFinite)
  let isInfinity (rest : List Char) : Bool :=
    [".inf", ".Inf", ".INF"].any (·.toList == rest)
  if [".nan", ".NaN", ".NAN"].any (·.toList == text) then some Double.nan
  else
    match text with
    | '+' :: rest => if isInfinity rest then some Double.infinity else finite false rest
    | '-' :: rest => if isInfinity rest then some Double.negInfinity else finite true rest
    | rest => if isInfinity rest then some Double.infinity else finite false rest

/-! ## Resolution -/

def isNullText (text : String) : Bool := ["null", "Null", "NULL", "~"].contains text

def bool? (text : String) : Option Bool :=
  if ["true", "True", "TRUE"].contains text then some true
  else if ["false", "False", "FALSE"].contains text then some false
  else none

/-- Integers of sixty-four bits are numbers; wider ones of up to a hundred and twenty-eight bits
are refused; beyond that an integer's text is read as a float. -/
inductive IntegerFit where
  | fits (value : Int)
  | wide (value : Int)
  | none

def integerFit (text : List Char) : IntegerFit :=
  match plainInteger? text with
  | some i =>
    if IntRange.int64.holds i || IntRange.nat64.holds i then .fits i
    else if IntRange.int128.holds i || IntRange.nat128.holds i then .wide i
    else .none
  | .none => .none

/-- What a plain scalar says. -/
def resolvePlain (text : String) : Except Refusal Value :=
  let chars := text.toList
  if text.isEmpty || isNullText text then .ok .null
  else
    match bool? text with
    | some b => .ok (.bool b)
    | none =>
      match integerFit chars with
      | .fits i => .ok (.number (.int i))
      | .wide i => .error (.outOfRange i)
      | .none =>
        match if isPaddedNumeral chars then none else float? chars with
        | some d => .ok (.number (.float d))
        | none => .ok (.string text)

/-- The name of a standard type as a tag. -/
def standardTag (name : String) : TagText := ("tag:yaml.org,2002:" ++ name).toUTF8.toList

/-- What a scalar says under a tag of a standard type; `none` for other tags. -/
def resolveStandard (tag : TagText) (text : String) : Option (Except Refusal Value) :=
  let chars := text.toList
  let demand (d : Demand) (v : Option Value) : Option (Except Refusal Value) :=
    some (v.elim (.error (.notA text d)) .ok)
  if tag == standardTag "bool" then demand .boolean ((bool? text).map .bool)
  else if tag == standardTag "int" then
    match integerFit chars with
    | .fits i => some (.ok (.number (.int i)))
    | .wide i => some (.error (.outOfRange i))
    | .none => demand .integer none
  else if tag == standardTag "float" then
    demand .float ((float? chars).map (.number ∘ .float))
  else if tag == standardTag "null" then
    demand .null (if isNullText text then some .null else none)
  else none

/-- What a scalar says. A tag that names no type leaves a plain scalar to its spelling only if
the tag is local; any other tag makes it a string. -/
def resolveScalar (tag : Option TagText) (text : String) (style : ScalarStyle) :
    Except Refusal Value :=
  let bySpelling := if style == .plain then resolvePlain text else .ok (.string text)
  match tag with
  | none => bySpelling
  | some tag =>
    match resolveStandard tag text with
    | some result => result
    | none => if tag.head? == some 0x21 then bySpelling else .ok (.string text)

end Schemata.Yaml
