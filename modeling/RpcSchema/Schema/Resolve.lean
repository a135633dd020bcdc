import RpcSchema.Generate.Error
import RpcSchema.Schema.Basic

/-!
From references to the types they name.
-/

namespace RpcSchema.Schema

/-- The type of a reference. -/
def resolve (schema : Schema) (target : TypeRef) : Except GenerateError TypeDecl :=
  match schema.lookup? target with
  | some type => .ok type
  | none => .error (.unresolvedReference target.raw none)

/-- The declared type of an array's elements; none for other fields and other elements. -/
def element (schema : Schema) (field : Field) : Except GenerateError (Option TypeDecl) :=
  if !field.isArray then .ok none
  else match field.items with
    | some (.reference target) => (schema.resolve target).map some
    | _ => .ok none

/-- The references that name no declared type, with the locations of their fields. -/
def danglingReferences (schema : Schema) : List (String × TypeRef) :=
  schema.fields.flatMap fun (location, field) =>
    (field.references.filter fun target => (schema.lookup? target).isNone).map
      fun target => (location, target)

/-- Fails at the first reference that names no declared type. -/
def checkReferences (schema : Schema) : Except GenerateError Unit :=
  match schema.danglingReferences with
  | [] => .ok ()
  | (location, target) :: _ => .error (.unresolvedReference target.raw (some location))

end RpcSchema.Schema
