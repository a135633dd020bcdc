import RpcSchema.Generate.Backend
import RpcSchema.Generate.Model
import RpcSchema.Generate.TypeMapping
import RpcSchema.Target.RustValidation

/-!
Rust structs for the types of a schema and the inputs and outputs of its methods.
-/

namespace RpcSchema

open Naming RustCode RustValidation Text

structure RustTypes where
  /-- Whether the types get `Validate` implementations. -/
  validate : Bool := false

namespace RustTypes

def derives : List String :=
  ["Debug", "Clone", "Default", "PartialEq", "Serialize", "Deserialize"]

/-- The name under which a field is read and written when no attribute gives another: its
identifier without the mark of a raw identifier. -/
def defaultKey (identifier : String) : String :=
  if ['r', '#'].isPrefixOf identifier.toList then String.ofList (identifier.toList.drop 2)
  else identifier

/-- Whether a value is missing as long as it is not set. -/
def isNullable : ValueType → Bool
  | .one (.declared _) => true
  | .one (.primitive kind) => kind == .timestamp
  | .many _ => false

/-- The attributes of a field: its key, where the identifier does not give it, and that a missing
value is not written. -/
def fieldAttributes (field : Field) (type : ValueType) : List String :=
  (if defaultKey (Convention.rust.fieldName field.name) == field.name then []
    else ["serde(rename = " ++ quoted field.name ++ ")"]) ++
    if isNullable type then ["serde(skip_serializing_if = \"Option::is_none\")"] else []

def structField (schema : Schema) (field : Field) : Except GenerateError RustCode.Field := do
  let type ← schema.valueType field
  return {
    name := Convention.rust.fieldName field.name
    type := ← TypeMapping.rust.value type
    doc := field.sentence (field.name ++ " is ")
    attributes := fieldAttributes field type }

/-- The comment above a record type. -/
def modelDoc (model : Model) : Option String :=
  match model with
  | .type type =>
    if type.description.isEmpty then none
    else some (model.name Convention.rust ++ " " ++ type.description)
  | model => some (model.name Convention.rust ++ " params.")

/-- A record type as Rust declares it, with its validation if it has one. -/
structure Declared where
  struct : Struct
  validation : Option Validation

/-- The declaration of a record type. -/
def declare (config : RustTypes) (schema : Schema) (model : Model) :
    Except GenerateError Declared := do
  let fields ← model.fields.mapM (structField schema)
  let struct : Struct := {
    name := model.name Convention.rust
    doc := modelDoc model
    derives := derives
    attributes := ["serde(default)"]
    fields := fields }
  if config.validate && model.isChecked then
    return ⟨struct, some (.ofChecks (← schema.checks model.fields))⟩
  else return ⟨struct, none⟩

def Declared.decls (declared : Declared) : List Decl :=
  .struct declared.struct ::
    declared.validation.toList.map fun validation => .impl (validation.impl declared.struct.name)

/-- The file of some declared record types. -/
def fileOf (declared : List Declared) : File where
  uses :=
    let uses := ({} : Uses).addAll "serde" ["Deserialize", "Serialize"]
    if declared.any fun declared => declared.validation.isSome then
      uses.addAll "rpcgen_runtime" ["Validate", "ValidationError"]
    else uses
  decls := declared.flatMap Declared.decls

def file (config : RustTypes) (schema : Schema) : Except GenerateError File := do
  return fileOf (← schema.models.mapM (config.declare schema))

def emit (config : RustTypes) (schema : Schema) : Except GenerateError (List GeneratedFile) := do
  return [{ path := "types.rs", content := (← config.file schema).text }]

def backend (config : RustTypes) : Backend := .ofEmit "rust-types" config.emit

end RustTypes

end RpcSchema
