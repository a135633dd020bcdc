import RpcSchema.Json.Position
import RpcSchema.Json.Printer

/-!
What is wrong with a JSON text, or with a value where another kind of value must stand.
-/

namespace RpcSchema.Json

open Decimal Text

/-- What was found where something else was expected. -/
inductive Found
  | null
  | bool (value : Bool)
  | number (value : Number)
  | string (text : String)
  | sequence
  | map

def Found.describe : Found → String
  | .null => "null"
  | .bool true => "boolean `true`"
  | .bool false => "boolean `false`"
  | .number (.integer value) => "integer `" ++ String.ofList (integerChars value) ++ "`"
  | .number (.floating value) => "floating point `" ++ Notation.json.text value ++ "`"
  | .string text => "string " ++ quoted text
  | .sequence => "sequence"
  | .map => "map"

/-- Why reading stops. -/
inductive Cause
  | endInValue
  | endInArray
  | endInObject
  | endInString
  | expectedValue
  | expectedWord
  | expectedColon
  | expectedCommaOrBracket
  | expectedCommaOrBrace
  | keyNotString
  | trailingComma
  | trailingText
  | invalidNumber
  | numberOutOfRange
  | invalidEscape
  | unfinishedEscape
  | loneSurrogate
  | controlCharacter
  | tooDeep
  | wrongKind (found : Found) (expected : String)
  | wrongLength (length : Nat) (expected : String)
  | missingField (name : String)
  | duplicateField (name : String)
  | unknownField (name : String) (known : List String)
  | unknownVariant (name : String) (known : List String)
  | bothItemForms

/-- Names as alternatives: one alone, two with `or`, more as a list. -/
def alternatives : List String → String
  | [] => "there are no fields"
  | [one] => "expected `" ++ one ++ "`"
  | [one, other] => "expected `" ++ one ++ "` or `" ++ other ++ "`"
  | names => "expected one of " ++ ", ".intercalate (names.map fun name => "`" ++ name ++ "`")

def Cause.describe : Cause → String
  | .endInValue => "EOF while parsing a value"
  | .endInArray => "EOF while parsing a list"
  | .endInObject => "EOF while parsing an object"
  | .endInString => "EOF while parsing a string"
  | .expectedValue => "expected value"
  | .expectedWord => "expected ident"
  | .expectedColon => "expected `:`"
  | .expectedCommaOrBracket => "expected `,` or `]`"
  | .expectedCommaOrBrace => "expected `,` or `\x7d`"
  | .keyNotString => "key must be a string"
  | .trailingComma => "trailing comma"
  | .trailingText => "trailing characters"
  | .invalidNumber => "invalid number"
  | .numberOutOfRange => "number out of range"
  | .invalidEscape => "invalid escape"
  | .unfinishedEscape => "unexpected end of hex escape"
  | .loneSurrogate => "lone leading surrogate in hex escape"
  | .controlCharacter => "control character (\\u0000-\\u001F) found while parsing a string"
  | .tooDeep => "recursion limit exceeded"
  | .wrongKind found expected => "invalid type: " ++ found.describe ++ ", expected " ++ expected
  | .wrongLength length expected =>
    "invalid length " ++ toString length ++ ", expected " ++ expected
  | .missingField name => "missing field `" ++ name ++ "`"
  | .duplicateField name => "duplicate field `" ++ name ++ "`"
  | .unknownField name known => "unknown field `" ++ name ++ "`, " ++ alternatives known
  | .unknownVariant name known => "unknown variant `" ++ name ++ "`, " ++ alternatives known
  | .bothItemForms => "items must declare either \"type\" or \"$ref\", not both"

/-- A cause, and where reading stood; only a whole value can be at fault without a position. -/
structure Fault where
  cause : Cause
  position : Option Position

namespace Fault

def stop (cause : Cause) (position : Position) : Fault := ⟨cause, some position⟩

/-- A fault without a position takes the given one. -/
def settle (fault : Fault) (position : Position) : Fault :=
  ⟨fault.cause, some (fault.position.getD position)⟩

def message (fault : Fault) : String :=
  match fault.position with
  | some position =>
    s!"{fault.cause.describe} at line {position.line} column {position.column}"
  | none => fault.cause.describe

end Fault

end RpcSchema.Json
