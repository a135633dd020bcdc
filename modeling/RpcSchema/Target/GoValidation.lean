import RpcSchema.Decimal.Notation
import RpcSchema.Naming.Convention
import RpcSchema.Schema.Check
import RpcSchema.Target.GoCode

/-!
The `Validate` methods of generated Go types.

A method goes through the fields one by one: a field's default is put in, then its other checks are
made, and the first check that fails is returned.
-/

namespace RpcSchema.GoValidation

open Code Decimal Naming

/-- A statement of a `Validate` method. Places are fields of the receiver, keys are their names in
the schema. -/
inductive Statement
  /-- Puts a value in where none is set. -/
  | fill (place : String) (value : DefaultValue)
  /-- Fails where no value is set. -/
  | require (place key : String) (zero : Zero)
  /-- Fails where a text is set that is none of the values. -/
  | oneOf (place key : String) (values : List String)
  /-- Validates a copy of each element, and fails where one fails. -/
  | each (place element : String)

/-- The field of a Go struct. -/
def placeOf (field : Field) : String := Convention.go.fieldName field.name

/-- The statement that makes a check. -/
def Statement.ofCheck : Check → Statement
  | .default field value => .fill (placeOf field) value
  | .required field zero => .require (placeOf field) field.name zero
  | .oneOf field => .oneOf (placeOf field) field.name field.enumValues
  | .elements field element => .each (placeOf field) (Convention.go.typeName element.name)

/-- What a statement needs from outside its method. -/
structure Needs where
  fmt : Bool := false
  runtime : Bool := false
  oneOf : Bool := false

def Needs.merge (a b : Needs) : Needs :=
  ⟨a.fmt || b.fmt, a.runtime || b.runtime, a.oneOf || b.oneOf⟩

def Statement.needs : Statement → Needs
  | .fill _ _ => {}
  | .require _ _ _ => { runtime := true }
  | .oneOf _ _ _ => { runtime := true, oneOf := true }
  | .each _ _ => { fmt := true }

/-- The zero value of a default's type and its own literal. -/
def literals : DefaultValue → String × String
  | .string text => ("\"\"", Json.stringText text)
  | .integer value => ("0", String.ofList (Json.integerChars value))
  | .float value => ("0", Notation.source.text value)

/-- The condition under which a place is not set. -/
def unsetCondition (place : String) : Zero → String
  | .emptyString => place ++ " == \"\""
  | .zeroInt => place ++ " == 0"
  | .zeroFloat => place ++ " == 0"
  | .emptyArray => place ++ " == nil"
  | .emptyObject => place ++ " == nil"
  | .unsetReference => place ++ " == nil"
  | .unsetTimestamp => place ++ ".IsZero()"

/-- Returns a validation error of the runtime package. -/
def failure (runtime key message : String) : Fragment :=
  .line ("return " ++ runtime ++ ".ValidationError\x7bField: " ++ Json.stringText key ++
    ", Message: " ++ Json.stringText message ++ "\x7d")

/-- A statement on a receiver as source. -/
def Statement.fragment (runtime receiver : String) : Statement → Fragment
  | .fill place value =>
    let target := receiver ++ "." ++ place
    let (zero, literal) := literals value
    block ("if " ++ target ++ " == " ++ zero ++ " \x7b") [.line (target ++ " = " ++ literal)]
      "\x7d"
  | .require place key zero =>
    block ("if " ++ unsetCondition (receiver ++ "." ++ place) zero ++ " \x7b")
      [failure runtime key requiredMessage] "\x7d"
  | .oneOf place key values =>
    let target := receiver ++ "." ++ place
    block ("if " ++ target ++ " != \"\" && !oneOf(" ++ target ++ ", []string\x7b" ++
        quotedList values ++ "\x7d) \x7b")
      [failure runtime key (oneOfMessage values)] "\x7d"
  | .each place _ =>
    block ("for i, v := range " ++ receiver ++ "." ++ place ++ " \x7b")
      [block "if err := v.Validate(); err != nil \x7b"
        [.line "return fmt.Errorf(\"element %d: %s\", i, err.Error())"] "\x7d"] "\x7d"

/-- The receiver of a type's methods: the first letter of its name in lower case. -/
def receiverOf (typeName : String) : String :=
  match typeName.toList with
  | [] => "x"
  | c :: _ => String.ofList (Text.lowerChar c)

/-- The `Validate` method of a type. -/
def method (runtime typeName : String) (statements : List Statement) : GoCode.Func where
  name := "Validate"
  doc := some "Validate implementation."
  receiver := some (receiverOf typeName ++ " *" ++ typeName)
  returns := some "error"
  body :=
    (statements.flatMap fun statement =>
      [statement.fragment runtime (receiverOf typeName), .blank]) ++ [.line "return nil"]

/-- The function that looks a text up among values. -/
def oneOfHelper : List String := [
  "// oneOf returns true if s is in the values.",
  "func oneOf(s string, values []string) bool \x7b",
  "\tfor _, v := range values \x7b",
  "\t\tif s == v \x7b",
  "\t\t\treturn true",
  "\t\t\x7d",
  "\t\x7d",
  "\treturn false",
  "\x7d"]

end RpcSchema.GoValidation
