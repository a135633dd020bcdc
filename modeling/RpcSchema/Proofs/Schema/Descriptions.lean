import RpcSchema.Proofs.Schema.Rewording
import RpcSchema.Target.TsRevivers

/-!
# Schemas without descriptions

Descriptions are there to be read. The record types of a schema, the types of its fields, the checks
on them and the timestamps in them are the same when all descriptions of types, fields and methods
are taken out.
-/

namespace RpcSchema

def Field.undescribed (field : Field) : Field := { field with description := "" }

def Method.undescribed (method : Method) : Method :=
  { method with
    description := ""
    inputs := method.inputs.map Field.undescribed
    outputs := method.outputs.map Field.undescribed }

def TypeDecl.undescribed (type : TypeDecl) : TypeDecl :=
  { type with
    description := ""
    properties := type.properties.map Field.undescribed }

/-- A schema without the descriptions of its types, fields and methods. -/
def Schema.undescribed (schema : Schema) : Schema :=
  { schema with
    methods := schema.methods.map Method.undescribed
    types := schema.types.map fun (key, type) => (key, type.undescribed) }

def Model.undescribed : Model → Model
  | .type decl => .type decl.undescribed
  | .input method => .input method.undescribed
  | .output method => .output method.undescribed

def Check.undescribed : Check → Check
  | .default field value => .default field.undescribed value
  | .required field zero => .required field.undescribed zero
  | .oneOf field => .oneOf field.undescribed
  | .elements field element => .elements field.undescribed element.undescribed

/-- Leaving out the descriptions of types, fields and methods. -/
def Rewording.undescribed : Rewording where
  name := id
  overview := id
  describe _ := ""
  groups := id
  typeExamples := id
  methodExamples := id

/-! ## Record types -/

theorem Method.name_undescribed (method : Method) : method.undescribed.name = method.name := rfl

theorem Method.hasInputs_undescribed (method : Method) :
    method.undescribed.hasInputs = method.hasInputs :=
  @Method.hasInputs_reworded .undescribed method

theorem Method.hasOutputs_undescribed (method : Method) :
    method.undescribed.hasOutputs = method.hasOutputs :=
  @Method.hasOutputs_reworded .undescribed method

namespace Model

theorem reworded_undescribed : Model.reworded .undescribed = undescribed := by
  funext model
  cases model <;> rfl

theorem fields_undescribed (model : Model) :
    model.undescribed.fields = model.fields.map Field.undescribed := by
  cases model <;> rfl

theorem name_undescribed (convention : Naming.Convention) (model : Model) :
    model.undescribed.name convention = model.name convention := by
  cases model <;> rfl

theorem isChecked_undescribed (model : Model) : model.undescribed.isChecked = model.isChecked := by
  cases model <;> rfl

end Model

theorem Check.reworded_undescribed : Check.reworded .undescribed = undescribed := by
  funext check
  cases check <;> rfl

namespace Schema

variable (schema : Schema)

theorem methods_undescribed :
    schema.undescribed.methods = schema.methods.map Method.undescribed := rfl

theorem models_undescribed : schema.undescribed.models = schema.models.map Model.undescribed := by
  rw [← Model.reworded_undescribed]
  exact @models_reworded .undescribed schema

/-- What does not look at descriptions holds of the same fields. -/
theorem any_fields_undescribed {holds : String × Field → Bool}
    (blind : ∀ location field, holds (location, field.undescribed) = holds (location, field)) :
    schema.undescribed.fields.any holds = schema.fields.any holds := by
  have fields : schema.undescribed.fields =
      schema.fields.map fun entry => (entry.1, entry.2.undescribed) :=
    @fields_reworded .undescribed schema
  rw [fields, List.any_map]
  exact congrArg _ (funext fun entry => blind entry.1 entry.2)

theorem checkReferences_undescribed :
    schema.undescribed.checkReferences = schema.checkReferences :=
  @checkReferences_reworded .undescribed schema

theorem checks_undescribed (fields : List Field) :
    schema.undescribed.checks (fields.map Field.undescribed) =
      (schema.checks fields).map (List.map Check.undescribed) := by
  rw [← Check.reworded_undescribed]
  exact @checks_reworded .undescribed schema fields

end Schema

theorem TypeMapping.field_undescribed (mapping : TypeMapping) (schema : Schema) (field : Field) :
    mapping.field schema.undescribed field.undescribed = mapping.field schema field :=
  @TypeMapping.field_reworded .undescribed mapping schema field

/-! ## Timestamps -/

namespace TsRevivers

open Naming

theorem any_holds_undescribed (dated : List String) (fields : List Field) :
    (fields.map Field.undescribed).any (holds dated) = fields.any (holds dated) := by
  rw [List.any_map]
  rfl

theorem newlyDated_undescribed (types : List TypeDecl) (dated : List String) :
    newlyDated (types.map TypeDecl.undescribed) dated = newlyDated types dated := by
  rw [newlyDated, List.filter_map, List.map_map, newlyDated]
  refine congrArg₂ List.map rfl (List.filter_congr fun type _ => ?_)
  exact congrArg _ (any_holds_undescribed dated type.properties)

theorem datedFrom_undescribed (types : List TypeDecl) (rounds : Nat) (dated : List String) :
    datedFrom (types.map TypeDecl.undescribed) rounds dated = datedFrom types rounds dated := by
  induction rounds generalizing dated with
  | zero => rfl
  | succ rounds ih => simp only [datedFrom, newlyDated_undescribed, ih]

variable (schema : Schema)

theorem map_snd_types_undescribed :
    schema.undescribed.types.map (·.2) = (schema.types.map (·.2)).map TypeDecl.undescribed := by
  rw [Schema.undescribed, List.map_map, List.map_map]
  rfl

theorem datedTypes_undescribed : datedTypes schema.undescribed = datedTypes schema := by
  rw [datedTypes, map_snd_types_undescribed, datedFrom_undescribed, datedTypes,
    Schema.undescribed, List.length_map]

theorem isDated_undescribed (dated : List String) (method : Method) :
    isDated dated method.undescribed = isDated dated method :=
  any_holds_undescribed dated method.outputs

theorem reviver_undescribed (dated : List String) (typeName : String) (fields : List Field) :
    reviver dated typeName (fields.map Field.undescribed) = reviver dated typeName fields := by
  rw [reviver, List.filter_map, List.map_map]
  rfl

theorem revivers_undescribed : revivers schema.undescribed = revivers schema := by
  have ofTypes (dated : List String) (types : List TypeDecl) :
      ((types.map TypeDecl.undescribed).filter fun type => dated.contains type.name).map
          (fun type => reviver dated (Convention.typescript.typeName type.name) type.properties) =
        (types.filter fun type => dated.contains type.name).map fun type =>
          reviver dated (Convention.typescript.typeName type.name) type.properties := by
    rw [List.filter_map, List.map_map]
    exact List.map_congr_left fun type _ => reviver_undescribed dated _ type.properties
  have ofMethods (dated : List String) (methods : List Method) :
      ((methods.map Method.undescribed).filter (isDated dated)).map (fun method =>
          reviver dated (Convention.typescript.outputType method.name) method.outputs) =
        (methods.filter (isDated dated)).map fun method =>
          reviver dated (Convention.typescript.outputType method.name) method.outputs := by
    have same : isDated dated ∘ Method.undescribed = isDated dated :=
      funext (isDated_undescribed dated)
    rw [List.filter_map, List.map_map, same]
    exact List.map_congr_left fun method _ => reviver_undescribed dated _ method.outputs
  rw [revivers, datedTypes_undescribed, map_snd_types_undescribed, ofTypes, Schema.undescribed,
    ofMethods, revivers]

end TsRevivers

end RpcSchema
