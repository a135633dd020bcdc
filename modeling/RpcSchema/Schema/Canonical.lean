import RpcSchema.Schema.Basic

/-!
The canonical form of a schema: every list of named declarations is in the order of the names, and
every type is named by its key.
-/

namespace RpcSchema

/-- Declarations in the order of their names; those of one name keep their order. -/
def sortByName {α : Type} (name : α → String) (items : List α) : List α :=
  items.mergeSort fun a b => decide (name a ≤ name b)

def Method.canonicalize (method : Method) : Method :=
  { method with
    inputs := sortByName Field.name method.inputs
    outputs := sortByName Field.name method.outputs }

def TypeDecl.canonicalize (key : String) (type : TypeDecl) : TypeDecl :=
  { type with name := key, properties := sortByName Field.name type.properties }

def Schema.canonicalize (schema : Schema) : Schema :=
  { schema with
    groups := sortByName Group.name schema.groups
    methods := sortByName Method.name (schema.methods.map Method.canonicalize)
    types := schema.types.map fun (key, type) => (key, type.canonicalize key) }

end RpcSchema
