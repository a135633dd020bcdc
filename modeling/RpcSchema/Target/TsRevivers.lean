import RpcSchema.Naming.Convention
import RpcSchema.Schema.Basic
import RpcSchema.Target.TsCode

/-!
Dates in parsed responses.

JSON has no dates, so a parsed response holds texts where the schema has timestamps. A reviver turns
the timestamps of one record type into dates, and calls the revivers of the types that its fields
refer to. Only types that hold a timestamp, in themselves or through references, get one.
-/

namespace RpcSchema

open Naming TsCode

/-- The type of a single value of a field: of its items, for an array that declares them. -/
def Field.elementType (field : Field) : FieldType :=
  if field.isArray then field.items.getD field.type else field.type

namespace TsRevivers

/-- Whether a field holds timestamps, when the named types do. -/
def holds (dated : List String) (field : Field) : Bool :=
  match field.elementType with
  | .primitive kind => kind == .timestamp
  | .reference target => dated.contains target.name

/-- The types that hold timestamps when the named ones do, and are not named yet. -/
def newlyDated (types : List TypeDecl) (dated : List String) : List String :=
  (types.filter fun type =>
    !dated.contains type.name && type.properties.any (holds dated)).map TypeDecl.name

/-- Adds the types that hold timestamps round by round until a round finds none; each round before
that names another type. -/
def datedFrom (types : List TypeDecl) : Nat → List String → List String
  | 0, dated => dated
  | rounds + 1, dated =>
    let found := newlyDated types dated
    if found.isEmpty then dated else datedFrom types rounds (dated ++ found)

/-- The names of the types that hold timestamps. -/
def datedTypes (schema : Schema) : List String :=
  datedFrom (schema.types.map (·.2)) schema.types.length []

/-- What a reviver does with a value that is there. -/
inductive Action
  /-- The text becomes a date. -/
  | date
  /-- Every text of the array becomes a date. -/
  | dates
  /-- The reviver of a type goes over the value. -/
  | call (type : String)
  /-- The reviver of a type goes over every element of the array. -/
  | calls (type : String)
deriving DecidableEq

/-- A statement of a reviver: an action on one member of its value. -/
structure Statement where
  key : String
  action : Action
deriving DecidableEq

/-- A reviver of the values of a record type. -/
structure Reviver where
  typeName : String
  statements : List Statement
deriving DecidableEq

def actionOf (field : Field) : Action :=
  match field.elementType with
  | .primitive _ => if field.isArray then .dates else .date
  | .reference target =>
    let type := Convention.typescript.typeName target.name
    if field.isArray then .calls type else .call type

/-- The reviver of a record type with given fields. -/
def reviver (dated : List String) (typeName : String) (fields : List Field) : Reviver where
  typeName := typeName
  statements := (fields.filter (holds dated)).map fun field =>
    ⟨Convention.typescript.fieldName field.name, actionOf field⟩

/-- Whether the outputs of a method hold timestamps. -/
def isDated (dated : List String) (method : Method) : Bool := method.outputs.any (holds dated)

/-- The revivers of a schema: those of its types, then those of its methods' outputs. -/
def revivers (schema : Schema) : List Reviver :=
  let dated := datedTypes schema
  (((schema.types.map (·.2)).filter fun type => dated.contains type.name).map fun type =>
      reviver dated (Convention.typescript.typeName type.name) type.properties) ++
    (schema.methods.filter (isDated dated)).map fun method =>
      reviver dated (Convention.typescript.outputType method.name) method.outputs

/-- The function that is the reviver of a type. -/
def functionName (typeName : String) : String := "revive" ++ typeName

/-- An action on a place as source. -/
def Action.text (place : String) : Action → String
  | .date => place ++ " = new Date(" ++ place ++ ");"
  | .dates => place ++ " = " ++ place ++ ".map((v) => new Date(v));"
  | .call type => functionName type ++ "(" ++ place ++ ");"
  | .calls type => place ++ ".forEach((v) => " ++ functionName type ++ "(v));"

def Statement.text (statement : Statement) : String :=
  let place := "value" ++ memberAccess statement.key
  "if (" ++ place ++ " != null) " ++ statement.action.text place

def Reviver.func (reviver : Reviver) : Func where
  name := functionName reviver.typeName
  doc := some (functionName reviver.typeName ++ " turns the timestamps of a parsed " ++
    reviver.typeName ++ " into dates.")
  params := [{ name := "value", type := reviver.typeName }]
  returns := some "void"
  body := reviver.statements.map Statement.text

end TsRevivers

end RpcSchema
