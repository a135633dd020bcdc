import RpcSchema.Decimal.Notation
import RpcSchema.Naming.Convention
import RpcSchema.Schema.Check
import RpcSchema.Target.RustCode
import RpcSchema.Text.Quoted

/-!
The `Validate` implementations of generated Rust types.

Validation goes in two passes: the first puts all defaults in, also in the elements of arrays; the
second makes all other checks and returns the first that fails.
-/

namespace RpcSchema.RustValidation

open Code Decimal Naming RustCode Text

/-- A statement of the first pass. Places are fields of `self`. -/
inductive DefaultStatement
  /-- Puts a value in where none is set. -/
  | fill (place : String) (value : DefaultValue)
  /-- Puts the defaults of each element in. -/
  | each (place element : String)

/-- A statement of the second pass; keys are the names of fields in the schema. -/
inductive CheckStatement
  /-- Fails where no value is set. -/
  | require (place key : String) (zero : Zero)
  /-- Fails where a text is set that is none of the values. -/
  | oneOf (place key : String) (values : List String)
  /-- Validates each element, and fails where one fails. -/
  | each (place element : String)

/-- The two passes for a type. -/
structure Validation where
  defaults : List DefaultStatement
  checks : List CheckStatement

/-- The field of a Rust struct. -/
def placeOf (field : Field) : String := Convention.rust.fieldName field.name

/-- What a check asks of the first pass. -/
def DefaultStatement.ofCheck : Check → List DefaultStatement
  | .default field value => [.fill (placeOf field) value]
  | .elements field element => [.each (placeOf field) (Convention.rust.typeName element.name)]
  | .required _ _ => []
  | .oneOf _ => []

/-- What a check asks of the second pass. -/
def CheckStatement.ofCheck : Check → List CheckStatement
  | .default _ _ => []
  | .required field zero => [.require (placeOf field) field.name zero]
  | .oneOf field => [.oneOf (placeOf field) field.name field.enumValues]
  | .elements field element => [.each (placeOf field) (Convention.rust.typeName element.name)]

def Validation.ofChecks (checks : List Check) : Validation :=
  ⟨checks.flatMap DefaultStatement.ofCheck, checks.flatMap CheckStatement.ofCheck⟩

/-- The condition under which a place has no default yet. -/
def fillCondition (place : String) : DefaultValue → String
  | .string _ => place ++ ".is_empty()"
  | .integer _ => place ++ " == 0"
  | .float _ => place ++ " == 0.0"

def literal : DefaultValue → String
  | .string text => quoted text ++ ".to_string()"
  | .integer value => String.ofList (Json.integerChars value)
  | .float value => Notation.source.text value

/-- The condition under which a place is not set. -/
def unsetCondition (place : String) : Zero → String
  | .emptyString => place ++ ".is_empty()"
  | .emptyArray => place ++ ".is_empty()"
  | .emptyObject => place ++ ".is_empty()"
  | .zeroInt => place ++ " == 0"
  | .zeroFloat => place ++ " == 0.0"
  | .unsetTimestamp => place ++ ".is_none()"
  | .unsetReference => place ++ ".is_none()"

def failure (key message : String) : Fragment :=
  .line ("return Err(ValidationError::new(" ++ quoted key ++ ", " ++ quoted message ++ "));")

def DefaultStatement.fragment : DefaultStatement → Fragment
  | .fill place value =>
    let target := "self." ++ place
    block ("if " ++ fillCondition target value ++ " \x7b")
      [.line (target ++ " = " ++ literal value ++ ";")] "\x7d"
  | .each place _ =>
    block ("for v in &mut self." ++ place ++ " \x7b") [.line "v.apply_defaults();"] "\x7d"

def CheckStatement.fragment : CheckStatement → Fragment
  | .require place key zero =>
    block ("if " ++ unsetCondition ("self." ++ place) zero ++ " \x7b")
      [failure key requiredMessage] "\x7d"
  | .oneOf place key values =>
    let target := "self." ++ place
    block ("if !" ++ target ++ ".is_empty() && ![" ++ ", ".intercalate (values.map quoted) ++
        "].contains(&" ++ target ++ ".as_str()) \x7b")
      [failure key (oneOfMessage values)] "\x7d"
  | .each place _ =>
    block ("for (i, v) in self." ++ place ++ ".iter().enumerate() \x7b")
      [.line "v.validate().map_err(|err| err.at_element(i))?;"] "\x7d"

/-- The implementation for a type; without defaults the first pass is left out. -/
def Validation.impl (typeName : String) (validation : Validation) : Impl where
  type := typeName
  interface := some "Validate"
  methods :=
    (if validation.defaults.isEmpty then []
      else
        [{ name := "apply_defaults"
           isPublic := false
           params := [{ name := "&mut self" }]
           body := validation.defaults.map DefaultStatement.fragment }]) ++
      [{ name := "validate"
         isPublic := false
         params := [selfParam]
         returns := some "Result<(), ValidationError>"
         body := validation.checks.map CheckStatement.fragment ++ [.line "Ok(())"] }]

end RpcSchema.RustValidation
