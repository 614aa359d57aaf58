import Schemata.Text.Property.Flag
import Schemata.Text.Property.Script

/-!
# Breaks

What a character is to the rules that cut text into clusters, words and sentences. Each list gives
the names of a value, without case, blanks and dashes, and its characters.
-/

namespace Schemata.Text

namespace Break

def carriageReturn : CodeSet := .read "D"

def lineFeed : CodeSet := .read "A"

def joiner : CodeSet := .read "200D"

/-! ## Clusters -/

/-- Marks and what else extends the character before it. -/
def extenders : CodeSet := Flag.graphemeExtend.chars ∪ Flag.emojiModifier.chars

/-- Controls; signs that stand before digits are no controls. -/
def controls : CodeSet :=
  .unions [.ofCategories [.lineSeparator, .paragraphSeparator, .control, .format],
    .unassigned ∩ Flag.defaultIgnorable.chars] \
  .unions [carriageReturn, lineFeed, joiner, extenders, Flag.prependedConcatenationMark.chars]

/-- What belongs to the character after it. -/
def prepended : CodeSet :=
  Flag.prependedConcatenationMark.chars ∪
    .read "D4E 111C2-111C3 113D1 1193F 11941 11A84-11A89 11D46 11F02"

/-- Marks that take a place of their own but follow a character. -/
def spacingMarks : CodeSet :=
  (Category.spacingMark.chars ∪ .read "E33 EB3") \
    (extenders ∪ .read "102B-102C 1038 1062-1064 1067-106D 1083 1087-108C 108F 109A-109C 1A61
      1A63-1A64 AA7B AA7D 11720-11721")

/-- Leading consonants of syllables. -/
def leadingJamo : CodeSet := .read "1100-115F A960-A97C"

/-- Vowels of syllables. -/
def vowelJamo : CodeSet := .read "1160-11A7 D7B0-D7C6 16D63 16D67-16D6A"

/-- Trailing consonants of syllables. -/
def trailingJamo : CodeSet := .read "11A8-11FF D7CB-D7FB"

/-- Syllables that end in a vowel. -/
def openSyllables : CodeSet := .read "AC00-D788/1C"

def closedSyllables : CodeSet := .read "AC00-D7A3" \ openSyllables

/-- Consonants of scripts that join them. -/
def conjunctConsonants : CodeSet :=
  .read "915-939 958-95F 978-97F 995-9A8 9AA-9B0 9B2 9B6-9B9 9DC-9DD 9DF 9F0-9F1 A95-AA8 AAA-AB0
    AB2-AB3 AB5-AB9 AF9 B15-B28 B2A-B30 B32-B33 B35-B39 B5C-B5D B5F B71 C15-C28 C2A-C39 C58-C5A
    D15-D3A 1000-102A 103F 1050-1055 105A-105D 1061 1065-1066 106E-1070 1075-1081 108E 1780-17B3
    1A20-1A54 1B0B-1B0C 1B13-1B33 1B45-1B4C 1B83-1BA0 1BAE-1BAF 1BBB-1BBD A989-A98B A98F-A9B2
    A9E0-A9E4 A9E7-A9EF A9FA-A9FE AA60-AA6F AA71-AA73 AA7A AA7E-AA7F AAE0-AAEA ABC0-ABDA 10A00
    10A10-10A13 10A15-10A17 10A19-10A35 11103-11126 11144 11147 11380-11389 1138B 1138E
    11390-113B5 11900-11906 11909 1190C-11913 11915-11916 11918-1192F 11A00 11A0B-11A32 11A50
    11A5C-11A83 11F04-11F10 11F12-11F33"

/-- Marks that join the consonants on both sides. -/
def conjunctLinkers : CodeSet :=
  .read "94D 9CD ACD B4D C4D D4D 1039 17D2 1A60 1B44 1BAB A9C0 AAF6 10A3F 11133 113D0 1193E
    11A47 11A99 11F42"

/-- What may stand between consonants and the mark that joins them. -/
def conjunctExtenders : CodeSet := (extenders \ (conjunctLinkers ∪ .read "200C")) ∪ joiner

def ofClusters : List (List String × CodeSet) :=
  [(["control", "cn"], controls), (["cr"], carriageReturn), (["extend", "ex"], extenders),
    (["l"], leadingJamo), (["lf"], lineFeed), (["lv"], openSyllables), (["lvt"], closedSyllables),
    (["prepend", "pp"], prepended), (["regionalindicator", "ri"], Flag.regionalIndicator.chars),
    (["spacingmark", "sm"], spacingMarks), (["t"], trailingJamo), (["v"], vowelJamo),
    (["zwj"], joiner)]

/-! ## Words -/

def numerals : CodeSet :=
  Category.decimalNumber.chars ∪ .read "600-605 66B-66C 6DD 890-891 8E2 110BD 110CD"

def katakanaOfWords : CodeSet :=
  (((Script.named? "katakana").map Script.chars).getD .empty) ∪
    .read "3031-3035 309B-309C 30A0 30FC FF70"

def hebrewLetters : CodeSet :=
  (((Script.named? "hebrew").map Script.chars).getD .empty) ∩ Category.otherLetter.chars

def extendersOfWords : CodeSet :=
  (extenders ∪ Category.spacingMark.chars) \ joiner

/-- Letters of scripts that write no blanks between words. -/
def unspacedLetters : CodeSet :=
  .read "E01-E3A E40-E4E E81-E82 E84 E86-E8A E8C-EA3 EA5 EA7-EBD EC0-EC4 EC6 EC8-ECE EDC-EDF
    1000-103F 1050-108F 109A-109F 1780-17D3 17D7 17DC-17DD 1950-196D 1970-1974 1980-19AB
    19B0-19C9 19DA 19DE-19DF 1A20-1A5E 1A60-1A7C 1AA0-1AAD A9E0-A9EF A9FA-A9FE AA60-AAC2
    AADB-AADF 11700-1171A 1171D-1172B 1173A-1173B 1173F-11746"

def lettersOfWords : CodeSet :=
  (Flag.alphabetic.chars ∪
    .read "2C2-2C5 2D2-2D7 2DE-2DF 2E5-2EB 2ED 2EF-2FF 55A-55C 55E 58A 5F3 70F A708-A716
      A720-A721 A789-A78A AB5B") \
  .unions [Flag.ideographic.chars, katakanaOfWords, unspacedLetters,
    ((Script.named? "hiragana").map Script.chars).getD .empty, extendersOfWords, hebrewLetters]

def ofWords : List (List String × CodeSet) :=
  [(["aletter", "le"], lettersOfWords), (["cr"], carriageReturn),
    (["doublequote", "dq"], .read "22"), (["extend"], extendersOfWords),
    (["extendnumlet", "ex"], Category.connectorPunctuation.chars ∪ .read "202F"),
    (["format", "fo"], Category.format.chars \
      .unions [.read "70F 200B-200D", numerals, Flag.graphemeExtend.chars]),
    (["hebrewletter", "hl"], hebrewLetters),
    (["katakana", "ka"], katakanaOfWords \ extendersOfWords), (["lf"], lineFeed),
    (["midletter", "ml"], .read "3A B7 387 55F 5F4 2027 FE13 FE55 FF1A"),
    (["midnum", "mn"], .read "2C 3B 37E 589 60C-60D 66C 7F8 2044 FE10 FE14 FE50 FE54 FF0C FF1B"),
    (["midnumlet", "mb"], .read "2E 2018-2019 2024 FE52 FF07 FF0E"),
    (["newline", "nl"], .read "B-C 85 2028-2029"), (["numeric", "nu"], numerals \ .read "66C"),
    (["regionalindicator", "ri"], Flag.regionalIndicator.chars),
    (["singlequote", "sq"], .read "27"),
    (["wsegspace"], Category.spaceSeparator.chars \ .read "A0 2007 202F"), (["zwj"], joiner)]

/-! ## Sentences -/

def extendersOfSentences : CodeSet :=
  .unions [Flag.graphemeExtend.chars, Category.spacingMark.chars, joiner]

def lowerOfSentences : CodeSet :=
  Flag.lowercase.chars \ (Flag.graphemeExtend.chars ∪ .read "10D0-10FA 10FD-10FF")

def upperOfSentences : CodeSet :=
  Category.titlecaseLetter.chars ∪ (Flag.uppercase.chars \ .read "1C90-1CBA 1CBD-1CBF")

def fullStops : CodeSet := .read "2E 2024 FE52 FF0E"

def sentenceEnds : CodeSet := Flag.sentenceTerminal.chars \ fullStops

def ofSentences : List (List String × CodeSet) :=
  [(["aterm", "at"], fullStops),
    (["close", "cl"], (.ofCategories [.openPunctuation, .closePunctuation, .initialPunctuation,
      .finalPunctuation] ∪ .read "22 27 275B-2760 2E00-2E01 2E06-2E08 2E0B 1F676-1F678") \
      (fullStops ∪ sentenceEnds)),
    (["cr"], carriageReturn), (["extend", "ex"], extendersOfSentences),
    (["format", "fo"], Category.format.chars \
      .unions [Flag.graphemeExtend.chars, joiner, numerals]),
    (["lf"], lineFeed), (["lower", "lo"], lowerOfSentences), (["numeric", "nu"], numerals),
    (["oletter", "le"], (Flag.alphabetic.chars ∪ .read "5F3") \
      .unions [lowerOfSentences, upperOfSentences, extendersOfSentences]),
    (["scontinue", "sc"], .read "2C-2D 3A-3B 37E 55D 60C-60D 7F8 1802 1808 2013-2014 3001
      FE10-FE11 FE13-FE14 FE31-FE32 FE50-FE51 FE54-FE55 FE58 FE63 FF0C-FF0D FF1A-FF1B FF64"),
    (["sep", "se"], .read "85 2028-2029"),
    (["sp"], Flag.whiteSpace.chars \ .read "A D 85 2028-2029"), (["sterm", "st"], sentenceEnds),
    (["upper", "up"], upperOfSentences)]

end Break

end Schemata.Text
