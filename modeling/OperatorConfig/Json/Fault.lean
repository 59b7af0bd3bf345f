/-!
# What is wrong with a JSON text

A fault is a defect of the spelling and the number of bytes read when it was noticed. Messages give
the place as a line and the bytes read in it.
-/

namespace OperatorConfig.Json

inductive Defect where
  | endInValue
  | endInString
  | endInArray
  | endInObject
  | noValue
  | noIdentifier
  | noColon
  | noCommaOrBracket
  | noCommaOrBrace
  | keyNotText
  | trailingComma
  | trailingCharacters
  | badEscape
  | badNumber
  | numberOutOfRange
  | loneSurrogate
  | unpairedSurrogate
  | controlCharacter
  | notUnicode
  | tooDeep
deriving DecidableEq

def Defect.message : Defect → String
  | .endInValue => "EOF while parsing a value"
  | .endInString => "EOF while parsing a string"
  | .endInArray => "EOF while parsing a list"
  | .endInObject => "EOF while parsing an object"
  | .noValue => "expected value"
  | .noIdentifier => "expected ident"
  | .noColon => "expected `:`"
  | .noCommaOrBracket => "expected `,` or `]`"
  | .noCommaOrBrace => "expected `,` or `\x7d`"
  | .keyNotText => "key must be a string"
  | .trailingComma => "trailing comma"
  | .trailingCharacters => "trailing characters"
  | .badEscape => "invalid escape"
  | .badNumber => "invalid number"
  | .numberOutOfRange => "number out of range"
  | .loneSurrogate => "lone leading surrogate in hex escape"
  | .unpairedSurrogate => "unexpected end of hex escape"
  | .controlCharacter => "control character (\\u0000-\\u001F) found while parsing a string"
  | .notUnicode => "invalid unicode code point"
  | .tooDeep => "recursion limit exceeded"

/-- A defect and the number of bytes read when it was noticed. -/
structure Fault where
  defect : Defect
  offset : Nat
deriving DecidableEq

/-- A line, counted from one, and the bytes read in it. -/
structure Position where
  line : Nat
  column : Nat
deriving DecidableEq

/-- The place after the first `offset` bytes of a document. -/
def Position.after (document : List UInt8) (offset : Nat) : Position :=
  (document.take offset).foldl
    (fun place byte => if byte = 10 then ⟨place.line + 1, 0⟩ else ⟨place.line, place.column + 1⟩)
    ⟨1, 0⟩

def Position.suffix (place : Position) : String :=
  s!" at line {place.line} column {place.column}"

end OperatorConfig.Json
