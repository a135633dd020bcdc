import RpcSchema.Schema.Field

/-!
Schemas: the declared types, the methods with their inputs and outputs, and the groups they are
documented under.
-/

namespace RpcSchema

/-- A sample call. -/
structure MethodExample where
  name : String := ""
  description : String := ""
  input : Option Json.Value := none
  output : Option Json.Value := none

/-- A remote procedure. -/
structure Method where
  name : String
  description : String := ""
  isPrivate : Bool := false
  /-- The name of its group; empty when it has none. -/
  group : String := ""
  inputs : List Field := []
  outputs : List Field := []
  examples : List MethodExample := []

namespace Method

def hasInputs (method : Method) : Bool := !method.inputs.isEmpty

def hasOutputs (method : Method) : Bool := !method.outputs.isEmpty

def fields (method : Method) : List Field := method.inputs ++ method.outputs

end Method

/-- A sample value of a type. -/
structure TypeExample where
  description : String := ""
  value : Json.Value := .null

/-- A declared type. -/
structure TypeDecl where
  name : String := ""
  description : String := ""
  isPrivate : Bool := false
  properties : List Field := []
  examples : List TypeExample := []

/-- A heading that methods are documented under. -/
structure Group where
  name : String
  description : String := ""
  summary : String := ""

/-- A whole schema. Its types are in the order of their keys. -/
structure Schema where
  name : String
  version : String
  description : String := ""
  /-- The tag names of generated Go fields. -/
  goTags : List String := ["json"]
  groups : List Group := []
  methods : List Method := []
  types : List (String × TypeDecl) := []

namespace Schema

def typeNamed? (schema : Schema) (name : String) : Option TypeDecl := schema.types.lookup name

/-- The type a reference points to. -/
def lookup? (schema : Schema) (target : TypeRef) : Option TypeDecl :=
  schema.typeNamed? target.name

def methodsIn (schema : Schema) (group : String) : List Method :=
  schema.methods.filter fun method => method.group == group

def groupNamed? (schema : Schema) (name : String) : Option Group :=
  schema.groups.find? fun group => group.name == name

/-- Every field with its dotted location: the properties of the types, then the inputs and outputs
of the methods. -/
def fields (schema : Schema) : List (String × Field) :=
  (schema.types.flatMap fun (_, type) =>
      type.properties.map fun field => ("types." ++ type.name ++ "." ++ field.name, field)) ++
    schema.methods.flatMap fun method =>
      (method.inputs.map fun field =>
        ("methods." ++ method.name ++ ".inputs." ++ field.name, field)) ++
      method.outputs.map fun field =>
        ("methods." ++ method.name ++ ".outputs." ++ field.name, field)

end Schema

end RpcSchema
