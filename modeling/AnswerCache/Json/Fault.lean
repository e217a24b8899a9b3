namespace AnswerCache.Json

inductive Fault
  | endInList
  | endInObject
  | endInString
  | endInValue
  | expectedColon
  | expectedCommaInList
  | expectedCommaInObject
  | expectedWord
  | expectedValue
  | trailingComma
  | trailingText
  | keyNotText
  | badEscape
  | badNumber
  | numberOutOfRange
  | controlCharacter
  | loneSurrogate
  | brokenPair
  | tooDeep
  deriving DecidableEq

def Fault.message : Fault → String
  | endInList => "EOF while parsing a list"
  | endInObject => "EOF while parsing an object"
  | endInString => "EOF while parsing a string"
  | endInValue => "EOF while parsing a value"
  | expectedColon => "expected \x60:\x60"
  | expectedCommaInList => "expected \x60,\x60 or \x60]\x60"
  | expectedCommaInObject => "expected \x60,\x60 or \x60\x7d\x60"
  | expectedWord => "expected ident"
  | expectedValue => "expected value"
  | trailingComma => "trailing comma"
  | trailingText => "trailing characters"
  | keyNotText => "key must be a string"
  | badEscape => "invalid escape"
  | badNumber => "invalid number"
  | numberOutOfRange => "number out of range"
  | controlCharacter => "control character (\\u0000-\\u001F) found while parsing a string"
  | loneSurrogate => "lone leading surrogate in hex escape"
  | brokenPair => "unexpected end of hex escape"
  | tooDeep => "recursion limit exceeded"

end AnswerCache.Json
