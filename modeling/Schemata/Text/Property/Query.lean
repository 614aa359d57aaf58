import Schemata.Text.Property.Age
import Schemata.Text.Property.Break

/-!
# Queries by property

A `Query` asks for the characters with a property: one that is named alone, or one with a value.
Names are compared without case, blanks, dashes, and an `is` in front.
-/

namespace Schemata.Text

inductive Query where
  | name (name : String)
  | value (property value : String)
deriving Repr

inductive QueryFault where
  | noProperty | noValue
deriving DecidableEq, Repr

namespace Query

/-- A name as names are compared. The name of the group `c` keeps what is in front of it. -/
def plain (name : String) : String :=
  let bare (cs : List Char) : String :=
    String.ofList <|
      (cs.filter fun c => c.toNat < 0x80 && !" _-".toList.contains c).map Char.toLower
  match name.toList with
  | i :: s :: rest =>
    if i.toLower == 'i' && s.toLower == 's' then
      if bare rest == "c" then "isc" else bare rest
    else bare name.toList
  | cs => bare cs

/-- Names of properties that have values, apart from the flags. -/
def valued : List String :=
  ["age", "bc", "bidiclass", "bidimirroringglyph", "bidipairedbracket", "bidipairedbrackettype",
    "blk", "block", "bmg", "bpb", "bpt", "canonicalcombiningclass", "casefolding", "ccc", "ce",
    "cf", "cjkaccountingnumeric", "cjkcompatibilityvariant", "cjkiicore", "cjkirggsource",
    "cjkirghsource", "cjkirgjsource", "cjkirgkpsource", "cjkirgksource", "cjkirgmsource",
    "cjkirgssource", "cjkirgtsource", "cjkirguksource", "cjkirgusource", "cjkirgvsource",
    "cjkothernumeric", "cjkprimarynumeric", "cjkrsunicode", "compex", "compositionexclusion",
    "cwkcf", "changeswhennfkccasefolded", "decompositionmapping", "decompositiontype", "dm", "dt",
    "ea", "eastasianwidth", "equideo", "equivalentunifiedideograph", "expandsonnfc",
    "expandsonnfd", "expandsonnfkc", "expandsonnfkd", "fcnfkc", "fcnfkcclosure",
    "fullcompositionexclusion", "gc", "gcb", "generalcategory", "graphemeclusterbreak",
    "hangulsyllabletype", "hst", "incb", "indicconjunctbreak", "indicpositionalcategory",
    "indicsyllabiccategory", "inpc", "insc", "isc", "isocomment", "jamoshortname", "jg",
    "joininggroup", "joiningtype", "jsn", "jt", "kehcat", "kehdesc", "kehhg", "kehifao", "kehjsesh",
    "kehnomirror", "kehnorotate", "kaccountingnumeric", "kcompatibilityvariant", "kiicore",
    "kirggsource", "kirghsource", "kirgjsource", "kirgkpsource", "kirgksource", "kirgmsource",
    "kirgssource", "kirgtsource", "kirguksource", "kirgusource", "kirgvsource", "kothernumeric",
    "kprimarynumeric", "krsunicode", "lb", "lc", "linebreak", "lowercasemapping", "na", "na1",
    "name", "namealias", "nfcqc", "nfcquickcheck", "nfdqc", "nfdquickcheck", "nfkccasefold",
    "nfkccf", "nfkcqc", "nfkcquickcheck", "nfkcscf", "nfkcsimplecasefold", "nfkdqc",
    "nfkdquickcheck", "nt", "numerictype", "numericvalue", "nv", "sb", "sc", "scf", "script",
    "scriptextensions", "scx", "sentencebreak", "sfc", "simplecasefolding",
    "simplelowercasemapping", "simpletitlecasemapping", "simpleuppercasemapping", "slc", "stc",
    "suc", "tc", "titlecasemapping", "uc", "unicode1name", "unicoderadicalstroke",
    "uppercasemapping", "urs", "verticalorientation", "vo", "wb", "wordbreak", "xonfc", "xonfd",
    "xonfkc", "xonfkd"]

/-- The characters of a category or of a group of them. -/
def category? (name : String) : Option CodeSet :=
  if name == "any" then some (.ofRange 0 CodeSet.maxCode)
  else if name == "assigned" then some CodeSet.unassigned.compl
  else if name == "ascii" then some (.ofRange 0 0x7F)
  else if ["cn", "unassigned"].contains name then some .unassigned
  else if ["c", "other"].contains name then
    some (.ofCategories Category.others ∪ .unassigned)
  else (categoryGroups.find? (·.1.contains name)).map fun g => .ofCategories g.2

/-- Names that are known and stand for no characters of a text. -/
def isBare (name : String) : Bool :=
  Script.bareNames.contains name || name == "cs" || name == "surrogate"

/-- The characters with a property that is named alone: a flag, a category or a script. Three names
of categories are those of properties too, and mean the categories. -/
def named (name : String) : Except QueryFault CodeSet :=
  match if name == "cf" || name == "sc" || name == "lc" then none else Flag.named? name with
  | some flag => .ok flag.chars
  | none =>
    match (category? name).or ((Script.named? name).map Script.chars) with
    | some s => .ok s
    | none => .error (if isBare name then .noValue else .noProperty)

/-- The characters with a value of a property. -/
def withValue (property value : String) : Except QueryFault CodeSet :=
  let found (chars : Option CodeSet) : Except QueryFault CodeSet :=
    match chars with
    | some s => .ok s
    | none => .error .noValue
  let listed (values : List (List String × CodeSet)) : Except QueryFault CodeSet :=
    found ((values.find? (·.1.contains value)).map (·.2))
  if ["gc", "generalcategory"].contains property then found (category? value)
  else if ["sc", "script"].contains property then found ((Script.named? value).map Script.chars)
  else if ["scx", "scriptextensions"].contains property then
    found ((Script.named? value).map Script.extended)
  else if property == "age" then found (upToAge? value)
  else if ["gcb", "graphemeclusterbreak"].contains property then listed Break.ofClusters
  else if ["wb", "wordbreak"].contains property then listed Break.ofWords
  else if ["sb", "sentencebreak"].contains property then listed Break.ofSentences
  else if (Flag.named? property).isSome || valued.contains property then .error .noValue
  else .error .noProperty

/-- The characters that a query asks for. -/
def chars : Query → Except QueryFault CodeSet
  | .name s => named (plain s)
  | .value property s => withValue (plain property) (plain s)

end Query

end Schemata.Text
