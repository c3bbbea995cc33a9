import StackLowering.Text.Quoted

/-!
# Causes of reading failures

Why a JSON text cannot be read, with the wording of each cause. Causes are either
errors of the notation itself, an early end of the text, or values that do not fit
what is being described.
-/

namespace StackLowering.Json

/-- What a value turned out to be. -/
inductive Found where
  | null
  | boolean (value : Bool)
  | integer (value : Int)
  | float (text : String)
  | string (content : List Char)
  | sequence
  | map
  | unitVariant
deriving DecidableEq, Repr

/-- Why a text cannot be read. -/
inductive Cause where
  | endInList
  | endInObject
  | endInString
  | endInValue
  | expectedColon
  | expectedListEnd
  | expectedObjectEnd
  | expectedLiteral
  | expectedValue
  | invalidEscape
  | invalidNumber
  | numberOutOfRange
  | controlCharacter
  | keyNotString
  | loneSurrogate
  | brokenSurrogate
  | trailingComma
  | trailingCharacters
  | invalidType (found : Found) (expected : String)
  | invalidValue (found : Found) (expected : String)
  | invalidLength (length : Nat) (record : String) (fields : Nat)
  | unknownVariant (name : String) (expected : List String)
  | duplicateField (name : String)
  | missingField (name : String)
deriving DecidableEq, Repr

/-- Broad classes of causes. -/
inductive Cause.Category where
  | syntactic
  | data
  | endOfText
deriving DecidableEq, Repr

/-- What a value turned out to be, in words. -/
def Found.text : Found → String
  | .null => "null"
  | .boolean value => "boolean `" ++ (if value then "true" else "false") ++ "`"
  | .integer value => "integer `" ++ value.repr ++ "`"
  | .float text => "floating point `" ++ text ++ "`"
  | .string content => "string " ++ Text.quoted content
  | .sequence => "sequence"
  | .map => "map"
  | .unitVariant => "unit variant"

namespace Cause

/-- The category of a cause. -/
def category : Cause → Category
  | .endInList | .endInObject | .endInString | .endInValue => .endOfText
  | .invalidType .. | .invalidValue .. | .invalidLength .. | .unknownVariant ..
  | .duplicateField _ | .missingField _ => .data
  | _ => .syntactic

/-- A cause in words. -/
def text : Cause → String
  | .endInList => "EOF while parsing a list"
  | .endInObject => "EOF while parsing an object"
  | .endInString => "EOF while parsing a string"
  | .endInValue => "EOF while parsing a value"
  | .expectedColon => "expected `:`"
  | .expectedListEnd => "expected `,` or `]`"
  | .expectedObjectEnd => "expected `,` or `\x7d`"
  | .expectedLiteral => "expected ident"
  | .expectedValue => "expected value"
  | .invalidEscape => "invalid escape"
  | .invalidNumber => "invalid number"
  | .numberOutOfRange => "number out of range"
  | .controlCharacter =>
    "control character (\\u0000-\\u001F) found while parsing a string"
  | .keyNotString => "key must be a string"
  | .loneSurrogate => "lone leading surrogate in hex escape"
  | .brokenSurrogate => "unexpected end of hex escape"
  | .trailingComma => "trailing comma"
  | .trailingCharacters => "trailing characters"
  | .invalidType found expected =>
    "invalid type: " ++ found.text ++ ", expected " ++ expected
  | .invalidValue found expected =>
    "invalid value: " ++ found.text ++ ", expected " ++ expected
  | .invalidLength length record fields =>
    "invalid length " ++ length.repr ++ ", expected struct " ++ record ++ " with " ++
      fields.repr ++ " elements"
  | .unknownVariant name expected =>
    "unknown variant `" ++ name ++ "`, expected " ++
      " or ".intercalate (expected.map fun known => "`" ++ known ++ "`")
  | .duplicateField name => "duplicate field `" ++ name ++ "`"
  | .missingField name => "missing field `" ++ name ++ "`"

end Cause

end StackLowering.Json
