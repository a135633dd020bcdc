import RpcSchema.Naming.Convention
import RpcSchema.Schema.Resolve

/-!
How the types of a schema are written in a target language.
-/

namespace RpcSchema

/-- The type of a single value, its reference resolved to the name of a declared type. -/
inductive ElementType
  | primitive (kind : Kind)
  | declared (name : String)
deriving DecidableEq

/-- The type of a field's value. -/
inductive ValueType
  | one (type : ElementType)
  | many (element : ElementType)
deriving DecidableEq

def Schema.elementType (schema : Schema) : FieldType → Except GenerateError ElementType
  | .primitive kind => .ok (.primitive kind)
  | .reference target => (schema.resolve target).map fun type => .declared type.name

/-- An array needs the type of its items. -/
def Schema.valueType (schema : Schema) (field : Field) : Except GenerateError ValueType :=
  match field.type with
  | .primitive .array =>
    match field.items with
    | some element => (schema.elementType element).map .many
    | none => .error (.missingItems field.name)
  | type => (schema.elementType type).map .one

/-- Whether a type stands for a field or for the elements of an array. -/
inductive TypePosition
  | field
  | element
deriving DecidableEq

/-- The types of a target language. -/
structure TypeMapping where
  target : String
  primitive : Kind → Option String
  /-- The type of a declared type's values. -/
  reference : TypePosition → String → String
  array : String → String

namespace TypeMapping

def element (mapping : TypeMapping) (position : TypePosition) :
    ElementType → Except GenerateError String
  | .primitive kind =>
    match mapping.primitive kind with
    | some text => .ok text
    | none => .error (.unmappedKind mapping.target kind)
  | .declared name => .ok (mapping.reference position name)

def value (mapping : TypeMapping) : ValueType → Except GenerateError String
  | .one type => mapping.element .field type
  | .many element => (mapping.element .element element).map mapping.array

/-- The type of a schema's field. -/
def field (mapping : TypeMapping) (schema : Schema) (field : Field) :
    Except GenerateError String := do
  mapping.value (← schema.valueType field)

/-- A type of a schema at a position, its items left aside. -/
def type (mapping : TypeMapping) (schema : Schema) (position : TypePosition)
    (type : FieldType) : Except GenerateError String := do
  mapping.element position (← schema.elementType type)

open Naming

def go : TypeMapping where
  target := "go"
  primitive
    | .string => some "string"
    | .boolean => some "bool"
    | .integer => some "int"
    | .float => some "float64"
    | .object => some "map[string]any"
    | .timestamp => some "time.Time"
    | .array => some "[]any"
  reference
    | .field, name => "*" ++ Convention.go.typeName name
    | .element, name => Convention.go.typeName name
  array element := "[]" ++ element

def typescript : TypeMapping where
  target := "typescript"
  primitive
    | .string => some "string"
    | .boolean => some "boolean"
    | .integer => some "number"
    | .float => some "number"
    | .object => some "Record<string, unknown>"
    | .timestamp => some "Date"
    | .array => some "unknown[]"
  reference _ name := Convention.typescript.typeName name
  array element := element ++ "[]"

def rust : TypeMapping where
  target := "rust"
  primitive
    | .string => some "String"
    | .boolean => some "bool"
    | .integer => some "i64"
    | .float => some "f64"
    | .object => some "serde_json::Map<String, serde_json::Value>"
    | .timestamp => some "Option<chrono::DateTime<chrono::Utc>>"
    | .array => some "Vec<serde_json::Value>"
  reference
    | .field, name => "Option<Box<" ++ Convention.rust.typeName name ++ ">>"
    | .element, name => Convention.rust.typeName name
  array element := "Vec<" ++ element ++ ">"

def csharp : TypeMapping where
  target := "dotnet"
  primitive
    | .string => some "string"
    | .boolean => some "bool"
    | .integer => some "long"
    | .float => some "double"
    | .object => some "Dictionary<string, object>"
    | .timestamp => some "DateTime?"
    | .array => some "List<object>"
  reference _ name := Convention.csharp.typeName name
  array element := "List<" ++ element ++ ">"

end TypeMapping

end RpcSchema
