import SigningKeys.Json.Shortest
import SigningKeys.Text.Quoted

/-!
# Why a document could not be read

* `Fault`: the causes; `Fault.kind` sorts them into texts that end too early, texts that are not
  well formed, and texts that say something else than what was asked for;
* `Found`: what stood where something else was expected;
* `Fault.message`: the complaint.
-/

namespace SigningKeys.Json

/-- What stood where something else was expected. -/
inductive Found where
  | null
  | bool (b : Bool)
  | number (n : Number)
  | text (s : String)
  | sequence
  | map
deriving DecidableEq

/-- Why a document could not be read. -/
inductive Fault where
  /-- The text ends within a list. -/
  | endOfList
  /-- The text ends within an object. -/
  | endOfObject
  /-- The text ends within a string. -/
  | endOfString
  /-- The text ends where a value should stand. -/
  | endOfValue
  | noColon
  | noListEnd
  | noObjectEnd
  | badLiteral
  | noValue
  | badEscape
  | badNumber
  | numberTooLarge
  | badUtf8
  | controlCharacter
  | keyNotString
  | loneSurrogate
  | missingSurrogate
  | trailingComma
  | trailingCharacters
  | tooDeep
  /-- A value of another type than the one asked for. -/
  | wrongType (found : Found) (expected : String)
  | missingField (name : String)
  | duplicateField (name : String)
  /-- A value that is none of the variants of a type. -/
  | noVariant (type : String)
deriving DecidableEq

/-- The kinds of fault. -/
inductive FaultKind where
  /-- The text ends too early. -/
  | ending
  /-- The text is not well formed. -/
  | form
  /-- The text says something else than what was asked for. -/
  | content
deriving DecidableEq

/-- The kind of a fault. -/
def Fault.kind : Fault → FaultKind
  | .endOfList | .endOfObject | .endOfString | .endOfValue => .ending
  | .wrongType _ _ | .missingField _ | .duplicateField _ | .noVariant _ => .content
  | _ => .form

/-- What was found, in words. -/
def Found.describe : Found → String
  | .null => "null"
  | .bool b => "boolean `" ++ toString b ++ "`"
  | .number (.int n) => "integer `" ++ toString n ++ "`"
  | .number (.float f) => "floating point `" ++ f.text ++ "`"
  | .text s => "string " ++ Text.quoted s
  | .sequence => "sequence"
  | .map => "map"

/-- The complaint about a fault. -/
def Fault.message : Fault → String
  | .endOfList => "EOF while parsing a list"
  | .endOfObject => "EOF while parsing an object"
  | .endOfString => "EOF while parsing a string"
  | .endOfValue => "EOF while parsing a value"
  | .noColon => "expected `:`"
  | .noListEnd => "expected `,` or `]`"
  | .noObjectEnd => "expected `,` or `\x7d`"
  | .badLiteral => "expected ident"
  | .noValue => "expected value"
  | .badEscape => "invalid escape"
  | .badNumber => "invalid number"
  | .numberTooLarge => "number out of range"
  | .badUtf8 => "invalid unicode code point"
  | .controlCharacter =>
    "control character (\\u0000-\\u001F) found while parsing a string"
  | .keyNotString => "key must be a string"
  | .loneSurrogate => "lone leading surrogate in hex escape"
  | .missingSurrogate => "unexpected end of hex escape"
  | .trailingComma => "trailing comma"
  | .trailingCharacters => "trailing characters"
  | .tooDeep => "recursion limit exceeded"
  | .wrongType found expected =>
    "invalid type: " ++ found.describe ++ ", expected " ++ expected
  | .missingField name => "missing field `" ++ name ++ "`"
  | .duplicateField name => "duplicate field `" ++ name ++ "`"
  | .noVariant type => "data did not match any variant of untagged enum " ++ type

end SigningKeys.Json
