import QueryFilter.Json.Value
import QueryFilter.Text.Quoted

/-!
# Why a JSON text is refused

`SyntaxError` names the ways in which a text is no JSON document; `JsonError` adds those in which a
document is not what the reader expects.
-/

namespace QueryFilter

inductive SyntaxError where
  | endInValue
  | endInObject
  | endInList
  | endInString
  | keyNotString
  | colonExpected
  | memberEndExpected
  | itemEndExpected
  | valueExpected
  | wordExpected
  | trailingComma
  | trailingCharacters
  | invalidNumber
  | numberOutOfRange
  | invalidEscape
  | escapeCutShort
  | loneSurrogate
  | controlCharacter
  | nestedTooDeep
  deriving DecidableEq, Repr

def SyntaxError.message : SyntaxError → String
  | endInValue => "EOF while parsing a value"
  | endInObject => "EOF while parsing an object"
  | endInList => "EOF while parsing a list"
  | endInString => "EOF while parsing a string"
  | keyNotString => "key must be a string"
  | colonExpected => "expected `:`"
  | memberEndExpected => "expected `,` or `\x7d`"
  | itemEndExpected => "expected `,` or `]`"
  | valueExpected => "expected value"
  | wordExpected => "expected ident"
  | trailingComma => "trailing comma"
  | trailingCharacters => "trailing characters"
  | invalidNumber => "invalid number"
  | numberOutOfRange => "number out of range"
  | invalidEscape => "invalid escape"
  | escapeCutShort => "unexpected end of hex escape"
  | loneSurrogate => "lone leading surrogate in hex escape"
  | controlCharacter => "control character (\\u0000-\\u001F) found while parsing a string"
  | nestedTooDeep => "recursion limit exceeded"

/-- What stands in a document where something else is expected. -/
inductive JsonFound where
  | null
  | bool (value : Bool)
  | number (value : JsonNumber)
  | string (value : String)
  | sequence
  | map
  deriving DecidableEq, Repr

namespace JsonFound

def inBackquotes (s : String) : String := "`" ++ s ++ "`"

def message : JsonFound → String
  | null => "null"
  | bool value => "boolean " ++ inBackquotes (if value then "true" else "false")
  | number (.int value) => "integer " ++ inBackquotes (String.ofList (Decimal.render value))
  | number (.float value) => "floating point " ++ inBackquotes (String.ofList value.scientific)
  | string value => "string " ++ Text.quoted value
  | sequence => "sequence"
  | map => "map"

def ofJson : Json → JsonFound
  | .null => null
  | .bool value => bool value
  | .number value => number value
  | .string value => string value
  | .array _ => sequence
  | .object _ => map

end JsonFound

inductive JsonExpected where
  | boolean
  | string
  | sequence
  | map
  /-- The text of a document. -/
  | embedded
  | record (name : String)
  deriving DecidableEq, Repr

def JsonExpected.message : JsonExpected → String
  | boolean => "a boolean"
  | string => "a string"
  | sequence => "a sequence"
  | map => "a map"
  | embedded => "raw value"
  | record name => "struct " ++ name

inductive JsonError where
  | malformed (cause : SyntaxError)
  | mismatch (found : JsonFound) (expected : JsonExpected)
  | unknownField (name : String) (known : List String)
  | duplicateField (name : String)
  | missingField (name : String)
  /-- A list stands for a record and has too few items. -/
  | tooFewItems (count : Nat) (record : String) (size : Nat)
  /-- A list stands for a record and has too many items. -/
  | tooManyItems (count : Nat)
  /-- None of the forms of the named choice fits. -/
  | noVariant (choice : String)
  deriving DecidableEq, Repr

def JsonError.message : JsonError → String
  | malformed cause => cause.message
  | mismatch found expected =>
    "invalid type: " ++ found.message ++ ", expected " ++ expected.message
  | unknownField name known =>
    "unknown field " ++ JsonFound.inBackquotes name ++ ", expected one of " ++
      ", ".intercalate (known.map JsonFound.inBackquotes)
  | duplicateField name => "duplicate field " ++ JsonFound.inBackquotes name
  | missingField name => "missing field " ++ JsonFound.inBackquotes name
  | tooFewItems count record size =>
    "invalid length " ++ toString count ++ ", expected struct " ++ record ++ " with " ++
      toString size ++ " elements"
  | tooManyItems count =>
    "invalid length " ++ toString count ++ ", expected fewer elements in array"
  | noVariant choice => "data did not match any variant of untagged enum " ++ choice

end QueryFilter
