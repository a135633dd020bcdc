import RpcSchema.Json.Value

/-!
Fields and the types of their values.
-/

namespace RpcSchema

/-- The primitive kinds of values. -/
inductive Kind
  | string
  | boolean
  | integer
  | float
  | array
  | object
  | timestamp
deriving DecidableEq

namespace Kind

def all : List Kind := [.string, .boolean, .integer, .float, .array, .object, .timestamp]

def name : Kind → String
  | .string => "string"
  | .boolean => "boolean"
  | .integer => "integer"
  | .float => "float"
  | .array => "array"
  | .object => "object"
  | .timestamp => "timestamp"

/-- The kind of a name. -/
def ofName? (name : String) : Option Kind := all.find? fun kind => kind.name == name

/-- What is said of a name that no kind has. -/
def unknownMessage (name : String) : String := "unknown kind '" ++ name ++ "'"

end Kind

/-- A reference to a declared type, as it is written. -/
structure TypeRef where
  raw : String
deriving DecidableEq

namespace TypeRef

/-- What a reference starts with. -/
def root : String := "#/types/"

/-- The reference to the type of a name. -/
def toType (name : String) : TypeRef := ⟨root ++ name⟩

/-- The name behind the root; a reference without the root is a name itself. -/
def name (reference : TypeRef) : String :=
  if root.toList.isPrefixOf reference.raw.toList then
    String.ofList (reference.raw.toList.drop root.length)
  else reference.raw

end TypeRef

/-- The type of a field's value: a primitive kind, or a declared type. -/
inductive FieldType
  | primitive (kind : Kind)
  | reference (target : TypeRef)
deriving DecidableEq

namespace FieldType

def kind? : FieldType → Option Kind
  | .primitive kind => some kind
  | .reference _ => none

def reference? : FieldType → Option TypeRef
  | .primitive _ => none
  | .reference target => some target

end FieldType

/-- A property of a type, or an input or output of a method. -/
structure Field where
  name : String
  description : String := ""
  required : Bool := false
  readonly : Bool := false
  /-- The value an unset field takes. -/
  defaultValue : Option Json.Value := none
  type : FieldType
  /-- The type of the elements of an array. -/
  items : Option FieldType := none
  /-- The values a text may have; empty when it may have any. -/
  enumValues : List String := []

namespace Field

def isArray (field : Field) : Bool := field.type == .primitive .array

/-- The references of a field: its own type's, then its items'. -/
def references (field : Field) : List TypeRef :=
  field.type.reference?.toList ++ (field.items.bind FieldType.reference?).toList

end Field

example : (TypeRef.toType "pet").name = "pet" := by decide
example : (TypeRef.mk "pet").name = "pet" := by decide

end RpcSchema
