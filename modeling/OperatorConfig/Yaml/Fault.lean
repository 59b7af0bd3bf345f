import OperatorConfig.Schema.Mismatch

/-!
# What is wrong with a YAML document

A document can fail to be text, break the grammar, or hold a value that its reader cannot take. The
message of a fault names the place where it was noticed and, for the grammar, what was being read and
where that began. The very start of a document is not worth naming.
-/

namespace OperatorConfig.Yaml

open Schema (Mismatch)

/-- A place in a document; lines and columns count from zero. -/
structure Mark where
  line : Nat := 0
  column : Nat := 0
deriving DecidableEq, Inhabited

def Mark.isStart (mark : Mark) : Bool := mark.line = 0 && mark.column = 0

def Mark.suffix (mark : Mark) : String :=
  if mark.isStart then "" else s!" at line {mark.line + 1} column {mark.column + 1}"

inductive EncodingProblem where
  | leadingOctet
  | trailingOctet
  | incomplete
  | overlong
  | notUnicode
  | control
deriving DecidableEq

def EncodingProblem.message : EncodingProblem → String
  | .leadingOctet => "invalid leading UTF-8 octet"
  | .trailingOctet => "invalid trailing UTF-8 octet"
  | .incomplete => "incomplete UTF-8 octet sequence"
  | .overlong => "invalid length of a UTF-8 sequence"
  | .notUnicode => "invalid Unicode character"
  | .control => "control characters are not allowed"

/-- How a document breaks the grammar. -/
inductive Problem where
  | noColon
  | strayCharacter
  | entryNotAllowed
  | keyNotAllowed
  | valueNotAllowed
  | unknownDirective
  | noLineEnd
  | noDirectiveName
  | badDirectiveName
  | noVersionPoint
  | longVersion
  | noVersion
  | noSpace
  | noSpaceOrBreak
  | noName
  | noBang
  | noAngle
  | noUri
  | noEscapedOctet
  | badLeadingOctet
  | badTrailingOctet
  | zeroIndentation
  | tabForIndentation
  | tabAgainstIndentation
  | documentMark
  | unclosed
  | unknownEscape
  | noHexadecimal
  | badCodePoint
  | strayColon
  | noDocumentStart
  | noContent
  | noEntry
  | noKey
  | noCommaOrBracket
  | noCommaOrBrace
  | undefinedHandle
  | repeatedVersion
  | otherVersion
  | repeatedHandle
deriving DecidableEq

def Problem.message : Problem → String
  | .noColon => "could not find expected ':'"
  | .strayCharacter => "found character that cannot start any token"
  | .entryNotAllowed => "block sequence entries are not allowed in this context"
  | .keyNotAllowed => "mapping keys are not allowed in this context"
  | .valueNotAllowed => "mapping values are not allowed in this context"
  | .unknownDirective => "found unknown directive name"
  | .noLineEnd => "did not find expected comment or line break"
  | .noDirectiveName => "could not find expected directive name"
  | .badDirectiveName => "found unexpected non-alphabetical character"
  | .noVersionPoint => "did not find expected digit or '.' character"
  | .longVersion => "found extremely long version number"
  | .noVersion => "did not find expected version number"
  | .noSpace => "did not find expected whitespace"
  | .noSpaceOrBreak => "did not find expected whitespace or line break"
  | .noName => "did not find expected alphabetic or numeric character"
  | .noBang => "did not find expected '!'"
  | .noAngle => "did not find the expected '>'"
  | .noUri => "did not find expected tag URI"
  | .noEscapedOctet => "did not find URI escaped octet"
  | .badLeadingOctet => "found an incorrect leading UTF-8 octet"
  | .badTrailingOctet => "found an incorrect trailing UTF-8 octet"
  | .zeroIndentation => "found an indentation indicator equal to 0"
  | .tabForIndentation => "found a tab character where an indentation space is expected"
  | .tabAgainstIndentation => "found a tab character that violates indentation"
  | .documentMark => "found unexpected document indicator"
  | .unclosed => "found unexpected end of stream"
  | .unknownEscape => "found unknown escape character"
  | .noHexadecimal => "did not find expected hexadecimal number"
  | .badCodePoint => "found invalid Unicode character escape code"
  | .strayColon => "found unexpected ':'"
  | .noDocumentStart => "did not find expected <document start>"
  | .noContent => "did not find expected node content"
  | .noEntry => "did not find expected '-' indicator"
  | .noKey => "did not find expected key"
  | .noCommaOrBracket => "did not find expected ',' or ']'"
  | .noCommaOrBrace => "did not find expected ',' or '\x7d'"
  | .undefinedHandle => "found undefined tag handle"
  | .repeatedVersion => "found duplicate %YAML directive"
  | .otherVersion => "found incompatible YAML document"
  | .repeatedHandle => "found duplicate %TAG directive"

/-- What was being read when a problem was noticed. -/
inductive Activity where
  | simpleKey
  | nextToken
  | directive
  | versionDirective
  | tagDirective
  | handleStart
  | handleEnd
  | directiveUri
  | tag
  | tagUri
  | anchor
  | alias
  | blockScalar
  | quotedScalar
  | escape
  | plainScalar
  | node
  | blockNode
  | flowNode
  | blockSequence
  | blockMapping
  | flowSequence
  | flowMapping
deriving DecidableEq

def Activity.message : Activity → String
  | .simpleKey => "while scanning a simple key"
  | .nextToken => "while scanning for the next token"
  | .directive => "while scanning a directive"
  | .versionDirective => "while scanning a %YAML directive"
  | .tagDirective => "while scanning a %TAG directive"
  | .handleStart => "while scanning a tag directive"
  | .handleEnd => "while parsing a tag directive"
  | .directiveUri => "while parsing a %TAG directive"
  | .tag => "while scanning a tag"
  | .tagUri => "while parsing a tag"
  | .anchor => "while scanning an anchor"
  | .alias => "while scanning an alias"
  | .blockScalar => "while scanning a block scalar"
  | .quotedScalar => "while scanning a quoted scalar"
  | .escape => "while parsing a quoted scalar"
  | .plainScalar => "while scanning a plain scalar"
  | .node => "while parsing a node"
  | .blockNode => "while parsing a block node"
  | .flowNode => "while parsing a flow node"
  | .blockSequence => "while parsing a block collection"
  | .blockMapping => "while parsing a block mapping"
  | .flowSequence => "while parsing a flow sequence"
  | .flowMapping => "while parsing a flow mapping"

/-- Why a document has no value. -/
inductive Fault where
  | encoding (problem : EncodingProblem) (offset : Nat)
  | grammar (problem : Problem) (place : Mark) (during : Option (Activity × Mark))
  | unknownAnchor (place : Mark)
  /-- The value at a path (`none` at the root) does not fit. -/
  | value (mismatch : Mismatch) (path : Option String) (place : Mark)
  | tooDeep (place : Mark)
  | tooOften
  | severalDocuments
deriving DecidableEq

def Fault.message : Fault → String
  | .encoding problem offset =>
      problem.message ++ (if offset = 0 then "" else s!" at position {offset}")
  | .grammar problem place none => problem.message ++ place.suffix
  | .grammar problem place (some (activity, start)) =>
      problem.message ++ place.suffix ++ ", " ++ activity.message
        ++ (if start = place then "" else start.suffix)
  | .unknownAnchor place => "unknown anchor" ++ place.suffix
  | .value mismatch path place =>
      let shown := path.getD "."
      (if shown = "." then "" else shown ++ ": ") ++ mismatch.message ++ place.suffix
  | .tooDeep place => "recursion limit exceeded" ++ place.suffix
  | .tooOften => "repetition limit exceeded"
  | .severalDocuments =>
      "deserializing from YAML containing more than one document is not supported"

end OperatorConfig.Yaml
