import RpcSchema.Pipeline.Diagnostic
import RpcSchema.Schema.Resolve

/-!
The checks that are made on a schema before code is generated from it.
-/

namespace RpcSchema

/-- A named check on schemas. -/
structure Lint where
  name : String
  description : String
  check : Schema → List Diagnostic

/-- A remark of a lint. -/
def remark (severity : Severity) (message location : String) : Diagnostic :=
  ⟨severity, "validate", message, some location⟩

/-- The members of a list that have occurred before in it. -/
def repeatedAfter : List String → List String → List String
  | _, [] => []
  | seen, name :: rest =>
    if seen.contains name then name :: repeatedAfter seen rest
    else repeatedAfter (name :: seen) rest

def repeated (names : List String) : List String := repeatedAfter [] names

/-- What becomes of a method whose group is not declared. -/
inductive GroupPolicy
  /-- It is documented without a group. -/
  | omit
  /-- The schema is refused. -/
  | reject
deriving DecidableEq

def GroupPolicy.severity : GroupPolicy → Severity
  | .omit => .warning
  | .reject => .error

namespace Lint

def danglingReference : Lint where
  name := "dangling-reference"
  description := "Check that every type reference resolves"
  check schema := schema.danglingReferences.map fun (location, target) =>
    remark .error ("reference to undefined type \"" ++ target.raw ++ "\"") location

def unknownGroupName : String := "unknown-group"

def unknownGroup (policy : GroupPolicy) : Lint where
  name := unknownGroupName
  description := "Check that method groups are declared"
  check schema :=
    (schema.methods.filter fun method =>
        !method.group.isEmpty && (schema.groupNamed? method.group).isNone).map fun method =>
      remark policy.severity
        ("method '" ++ method.name ++ "' belongs to undeclared group '" ++ method.group ++ "'")
        ("methods." ++ method.name ++ ".group")

def duplicateMethod : Lint where
  name := "duplicate-method"
  description := "Detect methods sharing a name"
  check schema := (repeated (schema.methods.map Method.name)).map fun name =>
    remark .error ("duplicate method '" ++ name ++ "'") ("methods." ++ name)

/-- The fields of an owner that share a name with one before. -/
def duplicateFields (owner : String) (fields : List Field) : List Diagnostic :=
  (repeated (fields.map Field.name)).map fun name =>
    remark .error ("duplicate field '" ++ name ++ "' in " ++ owner) (owner ++ "." ++ name)

def duplicateProperty : Lint where
  name := "duplicate-property"
  description := "Detect fields sharing a name within a type, input or output"
  check schema :=
    (schema.types.flatMap fun (_, type) =>
        duplicateFields ("types." ++ type.name) type.properties) ++
      schema.methods.flatMap fun method =>
        duplicateFields ("methods." ++ method.name ++ ".inputs") method.inputs ++
          duplicateFields ("methods." ++ method.name ++ ".outputs") method.outputs

/-- The remarks on the shape of one field. -/
def fieldShapeRemarks (location : String) (field : Field) : List Diagnostic :=
  (if !field.enumValues.isEmpty && field.type != .primitive .string then
      [remark .error ("field '" ++ field.name ++ "' declares an enum but is not a string")
        location]
    else []) ++
  if field.isArray && field.items.isNone then
    [remark .error ("array field '" ++ field.name ++ "' does not declare its items") location]
  else []

def fieldShape : Lint where
  name := "field-shape"
  description := "Check enum and items declarations against the field kind"
  check schema := schema.fields.flatMap fun (location, field) => fieldShapeRemarks location field

def emptyDescription : Lint where
  name := "empty-description"
  description := "Warn about methods and types without a description"
  check schema :=
    ((schema.methods.filter fun method => method.description.isEmpty).map fun method =>
        remark .warning ("method '" ++ method.name ++ "' has no description")
          ("methods." ++ method.name)) ++
      (schema.types.filter fun (_, type) => type.description.isEmpty).map fun (_, type) =>
        remark .warning ("type '" ++ type.name ++ "' has no description")
          ("types." ++ type.name)

/-- The lints that run when nothing else is asked for. -/
def standard : List Lint :=
  [danglingReference, unknownGroup .omit, duplicateMethod, duplicateProperty, fieldShape,
    emptyDescription]

end Lint

end RpcSchema
