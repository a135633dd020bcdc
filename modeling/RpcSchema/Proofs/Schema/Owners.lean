import Mathlib
import RpcSchema.Schema.Basic

/-!
# The fields of a schema by owner

A field belongs to one owner: a declared type, or the inputs or the outputs of a method. This
module lists the owners in the order in which `Schema.fields` goes through them, so that what is
said of located fields can be said of fields alone.
-/

namespace RpcSchema.Schema

/-- The fields of each owner: the properties of each type, then the inputs and the outputs of each
method. -/
def owners (schema : Schema) : List (List Field) :=
  (schema.types.map fun entry => entry.2.properties) ++
    schema.methods.flatMap fun method => [method.inputs, method.outputs]

/-- All fields of a schema, owner by owner. -/
def allFields (schema : Schema) : List Field := schema.owners.flatten

/-- The keys of the declared types. -/
def typeKeys (schema : Schema) : List String := schema.types.map (·.1)

theorem flatten_method_owners (methods : List Method) :
    (methods.flatMap fun method => [method.inputs, method.outputs]).flatten =
      methods.flatMap Method.fields := by
  induction methods with
  | nil => rfl
  | cons method rest ih =>
      simp only [List.flatMap_cons, List.flatten_append, ih]
      simp [Method.fields]

theorem allFields_eq (schema : Schema) :
    schema.allFields =
      (schema.types.flatMap fun entry => entry.2.properties) ++
        schema.methods.flatMap Method.fields := by
  rw [allFields, owners, List.flatten_append, flatten_method_owners, ← List.flatMap_def]

/-- Locations aside, the located fields are the fields of the owners in their order. -/
theorem map_snd_fields (schema : Schema) : schema.fields.map Prod.snd = schema.allFields := by
  rw [allFields_eq, fields, List.map_append, List.map_flatMap, List.map_flatMap]
  congr 1
  · simp [Function.comp_def]
  · simp only [List.map_append, List.map_map, Function.comp_def, List.map_id']
    rfl

/-- What is added up over the owners is added up over the types and the methods. -/
theorem sum_owners (schema : Schema) (weight : List Field → Nat) :
    (schema.owners.map weight).sum =
      (schema.types.map fun entry => weight entry.2.properties).sum +
        (schema.methods.map fun method => weight method.inputs + weight method.outputs).sum := by
  have ofMethods (methods : List Method) :
      ((methods.flatMap fun method => [method.inputs, method.outputs]).map weight).sum =
        (methods.map fun method => weight method.inputs + weight method.outputs).sum := by
    induction methods with
    | nil => rfl
    | cons method rest ih =>
        simp only [List.flatMap_cons, List.map_append, List.sum_append_nat, ih, List.map_cons,
          List.sum_cons, List.map_nil, List.sum_nil, Nat.add_zero]
  rw [owners, List.map_append, List.sum_append_nat, ofMethods, List.map_map]
  rfl

theorem property_mem_allFields {schema : Schema} {entry : String × TypeDecl} {field : Field}
    (declared : entry ∈ schema.types) (member : field ∈ entry.2.properties) :
    field ∈ schema.allFields := by
  rw [allFields_eq]
  exact List.mem_append_left _ (List.mem_flatMap.mpr ⟨entry, declared, member⟩)

theorem method_field_mem_allFields {schema : Schema} {method : Method} {field : Field}
    (declared : method ∈ schema.methods) (member : field ∈ method.fields) :
    field ∈ schema.allFields := by
  rw [allFields_eq]
  exact List.mem_append_right _ (List.mem_flatMap.mpr ⟨method, declared, member⟩)

/-- A reference leads nowhere exactly when its name is the key of no type. -/
theorem lookup?_isNone_iff (schema : Schema) (target : TypeRef) :
    (schema.lookup? target).isNone ↔ target.name ∉ schema.typeKeys := by
  rw [lookup?, typeNamed?, Option.isNone_iff_eq_none, List.lookup_eq_none_iff]
  constructor
  · intro absent present
    obtain ⟨entry, member, same⟩ := List.mem_map.mp present
    simpa [same] using absent entry member
  · intro absent entry member
    have differs : target.name ≠ entry.1 := fun same =>
      absent (same ▸ List.mem_map_of_mem member)
    simpa using differs

end RpcSchema.Schema
