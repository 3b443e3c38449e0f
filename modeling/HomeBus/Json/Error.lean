import HomeBus.Json.Printer
import HomeBus.Mismatch

/-!
# What can be wrong with a JSON document

Either the text is no JSON (`Malformed`), or it is but does not have the shape asked for.
-/

namespace HomeBus.Json

/-- A fault in the text of a document. -/
inductive Malformed where
  | endInValue
  | endInString
  | endInList
  | endInObject
  | noValue
  | noColon
  | noListEnd
  | noObjectEnd
  | badKeyword
  | badNumber
  | numberTooLarge
  | badEscape
  | loneSurrogate
  | missingSurrogate
  | notUtf8
  | controlCharacter
  | keyNotText
  | trailingComma
  | trailingCharacters
  | tooDeep
  deriving DecidableEq

/-- The fault in words. -/
def Malformed.message : Malformed → String
  | .endInValue => "EOF while parsing a value"
  | .endInString => "EOF while parsing a string"
  | .endInList => "EOF while parsing a list"
  | .endInObject => "EOF while parsing an object"
  | .noValue => "expected value"
  | .noColon => "expected `:`"
  | .noListEnd => "expected `,` or `]`"
  | .noObjectEnd => "expected `,` or `\x7d`"
  | .badKeyword => "expected ident"
  | .badNumber => "invalid number"
  | .numberTooLarge => "number out of range"
  | .badEscape => "invalid escape"
  | .loneSurrogate => "lone leading surrogate in hex escape"
  | .missingSurrogate => "unexpected end of hex escape"
  | .notUtf8 => "invalid unicode code point"
  | .controlCharacter => "control character (\\u0000-\\u001F) found while parsing a string"
  | .keyNotText => "key must be a string"
  | .trailingComma => "trailing comma"
  | .trailingCharacters => "trailing characters"
  | .tooDeep => "recursion limit exceeded"

/-- Why a document could not be read as what was asked for. -/
inductive Error where
  | malformed (fault : Malformed)
  | mismatch (cause : Mismatch)
  deriving DecidableEq

/-- The cause in words. -/
def Error.message : Error → String
  | .malformed fault => fault.message
  | .mismatch cause => cause.message fun d => String.ofList (doubleText d)

end HomeBus.Json
