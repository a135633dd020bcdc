import RpcSchema.Naming.Convention
import RpcSchema.Schema.Basic
import RpcSchema.Schema.Describe
import RpcSchema.Text.Blank

/-!
The record types that generated code declares for a schema.
-/

namespace RpcSchema

open Naming

/-- A record type: a declared type, or the inputs or outputs of a method. -/
inductive Model
  | type (type : TypeDecl)
  | input (method : Method)
  | output (method : Method)

namespace Model

def fields : Model → List Field
  | .type decl => decl.properties
  | .input method => method.inputs
  | .output method => method.outputs

/-- The name of a record type in a language. -/
def name (convention : Convention) : Model → String
  | .type decl => convention.typeName decl.name
  | .input method => convention.inputType method.name
  | .output method => convention.outputType method.name

/-- Whether values of the record type are read from requests. -/
def isChecked : Model → Bool
  | .type _ => true
  | .input _ => true
  | .output _ => false

end Model

/-- The record types of a method: one for its inputs if it has any, one for its outputs. -/
def Method.models (method : Method) : List Model :=
  (if method.hasInputs then [Model.input method] else []) ++
    if method.hasOutputs then [Model.output method] else []

/-- The record types of a schema: its types in order, then those of its methods. -/
def Schema.models (schema : Schema) : List Model :=
  schema.types.map (fun (_, type) => .type type) ++ schema.methods.flatMap Method.models

/-- What is said of a field when its description has been led in by `before`. -/
def Field.sentence (field : Field) (lead : String) : Option String :=
  let text :=
    if field.description.isEmpty then Text.trimStart field.extra
    else lead ++ field.description ++ field.extra
  if text.isEmpty then none else some text

end RpcSchema
