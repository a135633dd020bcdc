import Mathlib.Data.List.Basic
import RpcSchema.Generate.Model
import RpcSchema.Generate.TypeMapping
import RpcSchema.Schema.Check

/-!
# The words of a schema

Descriptions, examples, groups and the name of a schema are there to be read. Whatever they are
changed to, the record types of the schema, the types of its fields, the references among them and
the checks on them stay the same.
-/

namespace RpcSchema

/-- A change of the words of a schema. -/
structure Rewording where
  name : String → String
  /-- The change of the schema's own description. -/
  overview : String → String
  /-- The change of the descriptions of types, fields and methods. -/
  describe : String → String
  groups : List Group → List Group
  typeExamples : List TypeExample → List TypeExample
  methodExamples : List MethodExample → List MethodExample

variable (words : Rewording)

def Field.reworded (field : Field) : Field :=
  { field with description := words.describe field.description }

def Method.reworded (method : Method) : Method :=
  { method with
    description := words.describe method.description
    inputs := method.inputs.map (Field.reworded words)
    outputs := method.outputs.map (Field.reworded words)
    examples := words.methodExamples method.examples }

def TypeDecl.reworded (type : TypeDecl) : TypeDecl :=
  { type with
    description := words.describe type.description
    properties := type.properties.map (Field.reworded words)
    examples := words.typeExamples type.examples }

/-- A schema in other words. -/
def Schema.reworded (schema : Schema) : Schema :=
  { schema with
    name := words.name schema.name
    description := words.overview schema.description
    groups := words.groups schema.groups
    methods := schema.methods.map (Method.reworded words)
    types := schema.types.map fun (key, type) => (key, type.reworded words) }

def Model.reworded : Model → Model
  | .type decl => .type (decl.reworded words)
  | .input method => .input (method.reworded words)
  | .output method => .output (method.reworded words)

def Check.reworded : Check → Check
  | .default field value => .default (field.reworded words) value
  | .required field zero => .required (field.reworded words) zero
  | .oneOf field => .oneOf (field.reworded words)
  | .elements field element => .elements (field.reworded words) (element.reworded words)

variable {words}

/-! ## Record types -/

@[simp] theorem Method.name_reworded (method : Method) :
    (method.reworded words).name = method.name := rfl

@[simp] theorem Method.hasInputs_reworded (method : Method) :
    (method.reworded words).hasInputs = method.hasInputs := by
  rw [hasInputs, hasInputs, reworded, List.isEmpty_map]

@[simp] theorem Method.hasOutputs_reworded (method : Method) :
    (method.reworded words).hasOutputs = method.hasOutputs := by
  rw [hasOutputs, hasOutputs, reworded, List.isEmpty_map]

theorem Method.models_reworded (method : Method) :
    (method.reworded words).models = method.models.map (Model.reworded words) := by
  rw [models, models, hasInputs_reworded, hasOutputs_reworded, List.map_append]
  cases method.hasInputs <;> cases method.hasOutputs <;> rfl

namespace Model

theorem fields_reworded (model : Model) :
    (model.reworded words).fields = model.fields.map (Field.reworded words) := by
  cases model <;> rfl

@[simp] theorem name_reworded (convention : Naming.Convention) (model : Model) :
    (model.reworded words).name convention = model.name convention := by
  cases model <;> rfl

@[simp] theorem isChecked_reworded (model : Model) :
    (model.reworded words).isChecked = model.isChecked := by
  cases model <;> rfl

end Model

namespace Schema

variable (schema : Schema)

theorem methods_reworded :
    (schema.reworded words).methods = schema.methods.map (Method.reworded words) := rfl

theorem models_reworded :
    (schema.reworded words).models = schema.models.map (Model.reworded words) := by
  have ofMethods : (schema.reworded words).methods.flatMap Method.models =
      (schema.methods.flatMap Method.models).map (Model.reworded words) := by
    rw [methods_reworded, List.flatMap_map, List.map_flatMap]
    exact List.flatMap_congr fun method _ => method.models_reworded
  rw [models, ofMethods, models, List.map_append, reworded, List.map_map, List.map_map]
  rfl

theorem fields_reworded :
    (schema.reworded words).fields =
      schema.fields.map fun entry => (entry.1, entry.2.reworded words) := by
  simp only [fields, reworded, List.map_append, List.map_flatMap, List.flatMap_map, List.map_map,
    TypeDecl.reworded, Method.reworded]
  rfl

/-! ## Types of fields -/

theorem lookup?_reworded (target : TypeRef) :
    (schema.reworded words).lookup? target =
      (schema.lookup? target).map (TypeDecl.reworded words) := by
  have ofTypes (types : List (String × TypeDecl)) (name : String) :
      (types.map fun (key, type) => (key, type.reworded words)).lookup name =
        (types.lookup name).map (TypeDecl.reworded words) := by
    induction types with
    | nil => rfl
    | cons entry types ih =>
        rw [List.map_cons, List.lookup_cons, List.lookup_cons]
        split
        · rfl
        · exact ih
  exact ofTypes schema.types target.name

theorem resolve_reworded (target : TypeRef) :
    (schema.reworded words).resolve target =
      (schema.resolve target).map (TypeDecl.reworded words) := by
  rw [resolve, lookup?_reworded, resolve]
  cases schema.lookup? target <;> rfl

theorem checkReferences_reworded :
    (schema.reworded words).checkReferences = schema.checkReferences := by
  have dangling : (schema.reworded words).danglingReferences = schema.danglingReferences := by
    rw [danglingReferences, fields_reworded, List.flatMap_map, danglingReferences]
    refine List.flatMap_congr fun entry _ => congrArg _ (List.filter_congr fun target _ => ?_)
    rw [lookup?_reworded, Option.isNone_map]
  rw [checkReferences, dangling, checkReferences]

theorem elementType_reworded (type : FieldType) :
    (schema.reworded words).elementType type = schema.elementType type := by
  cases type with
  | primitive kind => rfl
  | reference target =>
      rw [elementType, resolve_reworded, elementType]
      cases schema.resolve target <;> rfl

theorem valueType_reworded (field : Field) :
    (schema.reworded words).valueType (field.reworded words) = schema.valueType field := by
  unfold valueType
  simp only [elementType_reworded, Field.reworded]

/-! ## Checks -/

theorem element_reworded (field : Field) :
    (schema.reworded words).element (field.reworded words) =
      (schema.element field).map (Option.map (TypeDecl.reworded words)) := by
  have isArray : (field.reworded words).isArray = field.isArray := rfl
  have items : (field.reworded words).items = field.items := rfl
  rw [element, element, isArray, items]
  split
  · rfl
  · split
    · next target _ =>
      rw [resolve_reworded]
      cases schema.resolve target <;> rfl
    · rfl

theorem fieldChecks_reworded (field : Field) :
    (schema.reworded words).fieldChecks (field.reworded words) =
      (schema.fieldChecks field).map (List.map (Check.reworded words)) := by
  have value : (field.reworded words).defaultCheck = field.defaultCheck := rfl
  rw [fieldChecks, fieldChecks, element_reworded, value]
  cases field.defaultCheck with
  | error error => rfl
  | ok value =>
      cases schema.element field with
      | error error => rfl
      | ok element =>
          have values : value.toList.map (Check.default (field.reworded words)) =
              (value.toList.map (Check.default field)).map (Check.reworded words) := by
            rw [List.map_map]
            rfl
          have elements : (element.map (TypeDecl.reworded words)).toList.map
              (Check.elements (field.reworded words)) =
                (element.toList.map (Check.elements field)).map (Check.reworded words) := by
            cases element <;> rfl
          have zeros : (if field.required then
              field.type.zero?.toList.map (Check.required (field.reworded words)) else []) =
                (if field.required then
                  field.type.zero?.toList.map (Check.required field) else []).map
                    (Check.reworded words) := by
            split
            · rw [List.map_map]
              rfl
            · rfl
          have ofText : (if field.type == .primitive .string && !field.enumValues.isEmpty then
              [Check.oneOf (field.reworded words)] else []) =
                (if field.type == .primitive .string && !field.enumValues.isEmpty then
                  [Check.oneOf field] else []).map (Check.reworded words) := by
            split <;> rfl
          show Except.ok (_ ++ _ ++ _ ++ _) = Except.ok (List.map _ (_ ++ _ ++ _ ++ _))
          rw [List.map_append, List.map_append, List.map_append, ← values, ← zeros, ← ofText,
            ← elements]
          rfl

theorem checks_reworded (fields : List Field) :
    (schema.reworded words).checks (fields.map (Field.reworded words)) =
      (schema.checks fields).map (List.map (Check.reworded words)) := by
  induction fields with
  | nil => rfl
  | cons field rest ih =>
      rw [List.map_cons, checks, fieldChecks_reworded, ih, checks]
      cases schema.fieldChecks field with
      | error error => rfl
      | ok first =>
          cases schema.checks rest with
          | error error => rfl
          | ok others => exact congrArg Except.ok List.map_append.symm

end Schema

theorem TypeMapping.field_reworded (mapping : TypeMapping) (schema : Schema) (field : Field) :
    mapping.field (schema.reworded words) (field.reworded words) = mapping.field schema field := by
  rw [TypeMapping.field, schema.valueType_reworded, TypeMapping.field]

end RpcSchema
