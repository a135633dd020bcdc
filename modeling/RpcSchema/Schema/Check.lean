import RpcSchema.Schema.Describe
import RpcSchema.Schema.Resolve

/-!
The checks a generated validator makes on the fields of a type or of a method's inputs.

The checks of one field come in a fixed order: its default is put in, then it has to be set, then to
have one of its values, then its elements are checked. Every target makes the same checks in the
same order and so finds the same first failure.
-/

namespace RpcSchema

open Decimal

def requiredMessage : String := "is required"

def oneOfMessage (values : List String) : String := "must be one of: " ++ quotedList values

/-- The value an unset field takes. -/
inductive DefaultValue
  | string (text : String)
  | integer (value : Int)
  | float (value : Binary64)
deriving DecidableEq

/-- How it shows that a field is not set. -/
inductive Zero
  | emptyString
  | zeroInt
  | zeroFloat
  | emptyArray
  | emptyObject
  | unsetTimestamp
  | unsetReference
deriving DecidableEq

inductive Check
  | default (field : Field) (value : DefaultValue)
  | required (field : Field) (zero : Zero)
  | oneOf (field : Field)
  | elements (field : Field) (element : TypeDecl)

namespace Check

def field : Check → Field
  | .default field _ => field
  | .required field _ => field
  | .oneOf field => field
  | .elements field _ => field

end Check

/-- How it shows that a field of a type is not set; a boolean is always set. -/
def FieldType.zero? : FieldType → Option Zero
  | .reference _ => some .unsetReference
  | .primitive .string => some .emptyString
  | .primitive .integer => some .zeroInt
  | .primitive .float => some .zeroFloat
  | .primitive .array => some .emptyArray
  | .primitive .object => some .emptyObject
  | .primitive .timestamp => some .unsetTimestamp
  | .primitive .boolean => none

/-- The default of a field as a value of its kind. Only texts, integers and floats are put in; on
other kinds a default has no effect. -/
def Field.defaultCheck (field : Field) : Except GenerateError (Option DefaultValue) :=
  match field.defaultValue, field.type with
  | some value, .primitive kind =>
    match kind, value with
    | .string, .string text => .ok (some (.string text))
    | .integer, .number (.integer value) =>
      if Json.isSignedWord value then .ok (some (.integer value))
      else .error (.invalidDefault field.name kind.name)
    | .float, .number value => .ok (some (.float value.toBinary))
    | .string, _ => .error (.invalidDefault field.name kind.name)
    | .integer, _ => .error (.invalidDefault field.name kind.name)
    | .float, _ => .error (.invalidDefault field.name kind.name)
    | _, _ => .ok none
  | _, _ => .ok none

/-- The checks of one field. -/
def Schema.fieldChecks (schema : Schema) (field : Field) : Except GenerateError (List Check) := do
  let value ← field.defaultCheck
  let element ← schema.element field
  return (value.toList.map (Check.default field)) ++
    (if field.required then field.type.zero?.toList.map (Check.required field) else []) ++
    (if field.type == .primitive .string && !field.enumValues.isEmpty then [.oneOf field]
      else []) ++
    element.toList.map (Check.elements field)

/-- The checks of some fields, field by field. -/
def Schema.checks (schema : Schema) : List Field → Except GenerateError (List Check)
  | [] => .ok []
  | field :: rest => do
    let first ← schema.fieldChecks field
    return first ++ (← schema.checks rest)

end RpcSchema
