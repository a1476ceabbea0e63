/-!
What can be wrong with the text of a JSON document.
-/

namespace Wayfinding.Json

inductive Fault where
  | endOfValue
  | endOfObject
  | endOfList
  | endOfString
  | expectedValue
  | expectedWord
  | expectedColon
  | expectedMember
  | expectedItem
  | keyNotString
  | trailingComma
  | trailingText
  | invalidNumber
  | numberOutOfRange
  | invalidEscape
  | loneSurrogate
  | unfinishedSurrogates
  | controlCharacter
  deriving DecidableEq, Repr

def Fault.message : Fault → String
  | .endOfValue => "EOF while parsing a value"
  | .endOfObject => "EOF while parsing an object"
  | .endOfList => "EOF while parsing a list"
  | .endOfString => "EOF while parsing a string"
  | .expectedValue => "expected value"
  | .expectedWord => "expected ident"
  | .expectedColon => "expected `:`"
  | .expectedMember => "expected `,` or `\x7d`"
  | .expectedItem => "expected `,` or `]`"
  | .keyNotString => "key must be a string"
  | .trailingComma => "trailing comma"
  | .trailingText => "trailing characters"
  | .invalidNumber => "invalid number"
  | .numberOutOfRange => "number out of range"
  | .invalidEscape => "invalid escape"
  | .loneSurrogate => "lone leading surrogate in hex escape"
  | .unfinishedSurrogates => "unexpected end of hex escape"
  | .controlCharacter => "control character (\\u0000-\\u001F) found while parsing a string"

end Wayfinding.Json
