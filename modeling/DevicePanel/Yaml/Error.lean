import DevicePanel.Yaml.Cursor

/-!
# Errors in YAML text

What can be wrong with a YAML text, where, and while what was being read.
-/

namespace DevicePanel.Yaml

/-- What is wrong with a YAML text. -/
inductive Problem where
  | noColon
  | badStart
  | sequenceNotAllowed
  | keyNotAllowed
  | valueNotAllowed
  | unknownDirective
  | noDirectiveName
  | badDirectiveName
  | noDirectiveEnd
  | noVersionDigit
  | longVersion
  | noVersion
  | noTagSpace
  | noTagLineEnd
  | noAnchorName
  | noTagBracket
  | noTagMark
  | noTagUri
  | noUriEscape
  | badUriLead
  | badUriTrail
  | zeroIndentation
  | tabIndentation
  | documentMark
  | endOfStream
  | unknownEscape
  | noHexDigit
  | badCodePoint
  | flowColon
  | tabInPlain
  | noDocumentStart
  | undefinedTag
  | noContent
  | noHyphen
  | noKey
  | noListEnd
  | noMapEnd
  | duplicateVersion
  | badVersion
  | duplicateTag
  deriving DecidableEq

def Problem.message : Problem → String
  | .noColon => "could not find expected ':'"
  | .badStart => "found character that cannot start any token"
  | .sequenceNotAllowed => "block sequence entries are not allowed in this context"
  | .keyNotAllowed => "mapping keys are not allowed in this context"
  | .valueNotAllowed => "mapping values are not allowed in this context"
  | .unknownDirective => "found unknown directive name"
  | .noDirectiveName => "could not find expected directive name"
  | .badDirectiveName => "found unexpected non-alphabetical character"
  | .noDirectiveEnd => "did not find expected comment or line break"
  | .noVersionDigit => "did not find expected digit or '.' character"
  | .longVersion => "found extremely long version number"
  | .noVersion => "did not find expected version number"
  | .noTagSpace => "did not find expected whitespace"
  | .noTagLineEnd => "did not find expected whitespace or line break"
  | .noAnchorName => "did not find expected alphabetic or numeric character"
  | .noTagBracket => "did not find the expected '>'"
  | .noTagMark => "did not find expected '!'"
  | .noTagUri => "did not find expected tag URI"
  | .noUriEscape => "did not find URI escaped octet"
  | .badUriLead => "found an incorrect leading UTF-8 octet"
  | .badUriTrail => "found an incorrect trailing UTF-8 octet"
  | .zeroIndentation => "found an indentation indicator equal to 0"
  | .tabIndentation => "found a tab character where an indentation space is expected"
  | .documentMark => "found unexpected document indicator"
  | .endOfStream => "found unexpected end of stream"
  | .unknownEscape => "found unknown escape character"
  | .noHexDigit => "did not find expected hexadecimal number"
  | .badCodePoint => "found invalid Unicode character escape code"
  | .flowColon => "found unexpected ':'"
  | .tabInPlain => "found a tab character that violates indentation"
  | .noDocumentStart => "did not find expected <document start>"
  | .undefinedTag => "found undefined tag handle"
  | .noContent => "did not find expected node content"
  | .noHyphen => "did not find expected '-' indicator"
  | .noKey => "did not find expected key"
  | .noListEnd => "did not find expected ',' or ']'"
  | .noMapEnd => "did not find expected ',' or '\x7d'"
  | .duplicateVersion => "found duplicate %YAML directive"
  | .badVersion => "found incompatible YAML document"
  | .duplicateTag => "found duplicate %TAG directive"

/-- What was being read. -/
inductive Context where
  | simpleKey
  | nextToken
  | directive
  | versionDirective
  | tagDirective
  | tagDirectiveHandle
  | tagDirectiveMark
  | tagDirectiveUri
  | anchor
  | «alias»
  | tag
  | tagUri
  | blockScalar
  | quotedScalar
  | quotedEscape
  | plainScalar
  | node
  | blockNode
  | flowNode
  | blockSequence
  | blockMapping
  | flowSequence
  | flowMapping
  deriving DecidableEq

def Context.message : Context → String
  | .simpleKey => "while scanning a simple key"
  | .nextToken => "while scanning for the next token"
  | .directive => "while scanning a directive"
  | .versionDirective => "while scanning a %YAML directive"
  | .tagDirective => "while scanning a %TAG directive"
  | .tagDirectiveHandle => "while scanning a tag directive"
  | .tagDirectiveMark => "while parsing a tag directive"
  | .tagDirectiveUri => "while parsing a %TAG directive"
  | .anchor => "while scanning an anchor"
  | .alias => "while scanning an alias"
  | .tag => "while scanning a tag"
  | .tagUri => "while parsing a tag"
  | .blockScalar => "while scanning a block scalar"
  | .quotedScalar => "while scanning a quoted scalar"
  | .quotedEscape => "while parsing a quoted scalar"
  | .plainScalar => "while scanning a plain scalar"
  | .node => "while parsing a node"
  | .blockNode => "while parsing a block node"
  | .flowNode => "while parsing a flow node"
  | .blockSequence => "while parsing a block collection"
  | .blockMapping => "while parsing a block mapping"
  | .flowSequence => "while parsing a flow sequence"
  | .flowMapping => "while parsing a flow mapping"

/-- An error in a YAML text. -/
inductive Error where
  /-- A character that may not be in a text, at a byte of it. -/
  | controlCharacter (offset : Nat)
  /-- A fault of the grammar, with what was being read and where that began. -/
  | malformed (problem : Problem) (mark : Mark) (context : Option (Context × Mark))
  /-- An alias for which no anchor has been set. -/
  | unknownAnchor (mark : Mark)
  | tooManyDocuments
  deriving DecidableEq

namespace Error

/-- A mark in words after a message, unless it is the start of the text. -/
def atText (m : Mark) : String := if m.isStart then "" else " at " ++ m.text

def message : Error → String
  | .controlCharacter offset =>
    "control characters are not allowed" ++
      if offset == 0 then "" else s!" at position {offset}"
  | .malformed problem mark context =>
    problem.message ++ atText mark ++
      match context with
      | none => ""
      | some (context, start) =>
        ", " ++ context.message ++
          if start.line == mark.line && start.column == mark.column then "" else atText start
  | .unknownAnchor mark => "unknown anchor" ++ atText mark
  | .tooManyDocuments =>
    "deserializing from YAML containing more than one document is not supported"

end Error

end DevicePanel.Yaml
