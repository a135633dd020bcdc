import RpcSchema.Generate.Backend
import RpcSchema.Generate.Model
import RpcSchema.Generate.TypeMapping
import RpcSchema.Target.GoValidation

/-!
Go types for the types of a schema and the inputs and outputs of its methods.
-/

namespace RpcSchema

open Code GoValidation Naming

/-- The import path of the package that generated Go relies on. -/
def GoCode.defaultRuntime : String := "github.com/apex/rpc"

structure GoTypes where
  package : String := "api"
  /-- Whether the types get `Validate` methods. -/
  validate : Bool := false
  runtime : String := GoCode.defaultRuntime

namespace GoTypes

/-- The tag of a field: the field's name under every tag name of the schema. -/
def tag (schema : Schema) (field : Field) : String :=
  " ".intercalate (schema.goTags.map fun name => name ++ ":\"" ++ field.name ++ "\"")

def structField (schema : Schema) (field : Field) : Except GenerateError GoCode.Field := do
  let name := Convention.go.fieldName field.name
  return {
    name := name
    type := ← TypeMapping.go.field schema field
    doc := field.sentence (name ++ " is ")
    tag := tag schema field }

/-- The comment above a record type. -/
def modelDoc (model : Model) : Option String :=
  match model with
  | .type type =>
    if type.description.isEmpty then none
    else some (model.name Convention.go ++ " " ++ type.description)
  | model => some (model.name Convention.go ++ " params.")

/-- A record type as Go declares it, with the statements of its `Validate` method if it has one. -/
structure Declared where
  struct : GoCode.Struct
  statements : Option (List Statement)

def Declared.needs (declared : Declared) : Needs :=
  (declared.statements.getD []).foldl (fun needs statement => needs.merge statement.needs) {}

/-- The declaration of a record type. -/
def declare (config : GoTypes) (schema : Schema) (model : Model) :
    Except GenerateError Declared := do
  let fields ← model.fields.mapM (structField schema)
  let struct : GoCode.Struct := ⟨model.name Convention.go, modelDoc model, fields⟩
  if config.validate && model.isChecked then
    let checks ← schema.checks model.fields
    return ⟨struct, some (checks.map Statement.ofCheck)⟩
  else return ⟨struct, none⟩

def Declared.decls (runtime : String) (declared : Declared) : List GoCode.Decl :=
  .struct declared.struct ::
    declared.statements.toList.map fun statements =>
      .func (GoValidation.method runtime declared.struct.name statements)

/-- Whether a field's type or items are timestamps. -/
def mentionsTime (field : Field) : Bool :=
  field.type == .primitive .timestamp || field.items == some (.primitive .timestamp)

/-- The file of some declared record types. -/
def fileOf (config : GoTypes) (schema : Schema) (declared : List Declared) : GoCode.File :=
  let needs : Needs :=
    declared.foldl (fun needs declared => needs.merge declared.needs) {}
  { package := config.package
    imports :=
      ((({} : GoCode.Imports).addIf (schema.fields.any fun (_, field) => mentionsTime field)
        "time").addIf needs.fmt "fmt").addIf needs.runtime config.runtime
    decls :=
      declared.flatMap (Declared.decls (GoCode.packageQualifier config.runtime)) ++
        if needs.oneOf then [.raw ("\n".intercalate oneOfHelper)] else [] }

def file (config : GoTypes) (schema : Schema) : Except GenerateError GoCode.File := do
  return config.fileOf schema (← schema.models.mapM (config.declare schema))

def emit (config : GoTypes) (schema : Schema) : Except GenerateError (List GeneratedFile) := do
  return [{ path := "types.go", content := (← config.file schema).text }]

def backend (config : GoTypes) : Backend := .ofEmit "go-types" config.emit

end GoTypes

end RpcSchema
