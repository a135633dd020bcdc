import RpcSchema.Generate.Backend
import RpcSchema.Generate.Model
import RpcSchema.Generate.TypeMapping
import RpcSchema.Target.TsCode

/-!
TypeScript interfaces for the types of a schema and the inputs and outputs of its methods.
-/

namespace RpcSchema.TsTypes

open Code Naming TsCode

def interfaceField (schema : Schema) (field : Field) : Except GenerateError InterfaceField := do
  let key := Convention.typescript.fieldName field.name
  return {
    name := key
    type := ← TypeMapping.typescript.field schema field
    doc := field.sentence (key ++ " is ")
    isOptional := !field.required }

/-- The comment above a record type. -/
def modelDoc (model : Model) : Option String :=
  match model with
  | .type type =>
    if type.description.isEmpty then none
    else some (model.name Convention.typescript ++ " " ++ type.description)
  | model => some (model.name Convention.typescript ++ " params.")

/-- The declaration of a record type. -/
def declare (schema : Schema) (model : Model) : Except GenerateError Interface := do
  let fields ← model.fields.mapM (interfaceField schema)
  return ⟨model.name Convention.typescript, modelDoc model, fields⟩

def file (schema : Schema) : Except GenerateError File := do
  let interfaces ← schema.models.mapM (declare schema)
  return { decls := interfaces.map .interface }

def emit (schema : Schema) : Except GenerateError (List GeneratedFile) := do
  return [{ path := "types.ts", content := (← file schema).text }]

def backend : Backend := .ofEmit "ts-types" emit

end RpcSchema.TsTypes
