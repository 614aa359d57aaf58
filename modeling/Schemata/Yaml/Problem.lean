/-!
# What can be wrong with the text of a document

A `Problem` is what was found or missed, an `Activity` what was being read at the time.
-/

namespace Schemata.Yaml

/-- Why octets cannot be read as text. -/
inductive Unreadable where
  | strayLead | strayTrail | incomplete | overlong | noCharacter | control
deriving DecidableEq, Repr

def Unreadable.text : Unreadable → String
  | .strayLead => "invalid leading UTF-8 octet"
  | .strayTrail => "invalid trailing UTF-8 octet"
  | .incomplete => "incomplete UTF-8 octet sequence"
  | .overlong => "invalid length of a UTF-8 sequence"
  | .noCharacter => "invalid Unicode character"
  | .control => "control characters are not allowed"

inductive Problem where
  | noToken | noColon
  | entryNotAllowed | keyNotAllowed | valueNotAllowed
  | noDirectiveName | notAlphabetic | unknownDirective | noCommentOrBreak
  | noDigitOrPoint | longVersion | noVersion
  | noBang | noBlank | noBlankOrBreak | noAngle
  | noTagUri | noEscapedOctet | strayLeadOctet | strayTrailOctet
  | noNameCharacter
  | zeroIndentation | tabForIndentation | tabAgainstIndentation
  | documentIndicator | endOfStream
  | unknownEscape | noHexDigit | noSuchCharacter
  | unexpectedColon
  | noDocumentStart | duplicateVersion | incompatible | duplicateHandle | undefinedHandle
  | noContent | noDash | noKey | noCommaOrBracket | noCommaOrBrace
deriving DecidableEq, Repr

def Problem.text : Problem → String
  | .noToken => "found character that cannot start any token"
  | .noColon => "could not find expected ':'"
  | .entryNotAllowed => "block sequence entries are not allowed in this context"
  | .keyNotAllowed => "mapping keys are not allowed in this context"
  | .valueNotAllowed => "mapping values are not allowed in this context"
  | .noDirectiveName => "could not find expected directive name"
  | .notAlphabetic => "found unexpected non-alphabetical character"
  | .unknownDirective => "found unknown directive name"
  | .noCommentOrBreak => "did not find expected comment or line break"
  | .noDigitOrPoint => "did not find expected digit or '.' character"
  | .longVersion => "found extremely long version number"
  | .noVersion => "did not find expected version number"
  | .noBang => "did not find expected '!'"
  | .noBlank => "did not find expected whitespace"
  | .noBlankOrBreak => "did not find expected whitespace or line break"
  | .noAngle => "did not find the expected '>'"
  | .noTagUri => "did not find expected tag URI"
  | .noEscapedOctet => "did not find URI escaped octet"
  | .strayLeadOctet => "found an incorrect leading UTF-8 octet"
  | .strayTrailOctet => "found an incorrect trailing UTF-8 octet"
  | .noNameCharacter => "did not find expected alphabetic or numeric character"
  | .zeroIndentation => "found an indentation indicator equal to 0"
  | .tabForIndentation => "found a tab character where an indentation space is expected"
  | .tabAgainstIndentation => "found a tab character that violates indentation"
  | .documentIndicator => "found unexpected document indicator"
  | .endOfStream => "found unexpected end of stream"
  | .unknownEscape => "found unknown escape character"
  | .noHexDigit => "did not find expected hexadecimal number"
  | .noSuchCharacter => "found invalid Unicode character escape code"
  | .unexpectedColon => "found unexpected ':'"
  | .noDocumentStart => "did not find expected <document start>"
  | .duplicateVersion => "found duplicate %YAML directive"
  | .incompatible => "found incompatible YAML document"
  | .duplicateHandle => "found duplicate %TAG directive"
  | .undefinedHandle => "found undefined tag handle"
  | .noContent => "did not find expected node content"
  | .noDash => "did not find expected '-' indicator"
  | .noKey => "did not find expected key"
  | .noCommaOrBracket => "did not find expected ',' or ']'"
  | .noCommaOrBrace => "did not find expected ',' or '\x7d'"

inductive Activity where
  | nextToken | simpleKey
  | directive | versionDirective | tagDirective | tagDirectiveStart | tagDirectiveHandle
  | tagDirectivePrefix
  | anchor | alias | tag | tagText
  | blockScalar | quotedScalar | quotedText | plainScalar
  | node | blockNode | flowNode
  | blockCollection | blockMapping | flowSequence | flowMapping
deriving DecidableEq, Repr

def Activity.text : Activity → String
  | .nextToken => "while scanning for the next token"
  | .simpleKey => "while scanning a simple key"
  | .directive => "while scanning a directive"
  | .versionDirective => "while scanning a %YAML directive"
  | .tagDirective => "while scanning a %TAG directive"
  | .tagDirectiveStart => "while scanning a tag directive"
  | .tagDirectiveHandle => "while parsing a tag directive"
  | .tagDirectivePrefix => "while parsing a %TAG directive"
  | .anchor => "while scanning an anchor"
  | .alias => "while scanning an alias"
  | .tag => "while scanning a tag"
  | .tagText => "while parsing a tag"
  | .blockScalar => "while scanning a block scalar"
  | .quotedScalar => "while scanning a quoted scalar"
  | .quotedText => "while parsing a quoted scalar"
  | .plainScalar => "while scanning a plain scalar"
  | .node => "while parsing a node"
  | .blockNode => "while parsing a block node"
  | .flowNode => "while parsing a flow node"
  | .blockCollection => "while parsing a block collection"
  | .blockMapping => "while parsing a block mapping"
  | .flowSequence => "while parsing a flow sequence"
  | .flowMapping => "while parsing a flow mapping"

end Schemata.Yaml
