import RpcSchema.Proofs.Schema.Canonical
import RpcSchema.Proofs.Schema.Owners

/-!
# Names in loaded schemas

The form of a schema asks for identifiers where methods and fields are named. Whatever loads has
that form, so generated code can take these names as they stand: none has a quote, a space or a line
break in it.
-/

namespace RpcSchema

open Json

namespace Shape

section Members

variable {required : List String} {known : List (String × Shape)} {members : List (String × Value)}
  (conforms : Conforms required known members)
include conforms

/-- What is read of the items of a list, when it is known of each item. -/
theorem forall_mem_asList {α : Type} {item : Shape} {reading : Value → α} (holds : α → Prop)
    (each : ∀ value, item.Accepts value → holds (reading value)) (key : String)
    (listed : (key, list item) ∈ known) :
    ∀ result ∈ ((members.lookup key).map (Value.asList reading)).getD [], holds result := by
  intro result member
  cases found : members.lookup key with
  | none =>
      rw [found] at member
      cases member
  | some value =>
      obtain ⟨items, rfl, accepted⟩ := exists_items (conforms.accepted _ listed value found)
      rw [found] at member
      obtain ⟨item, isItem, rfl⟩ := List.mem_map.mp member
      exact each item (accepted item isItem)

/-- What is read of the members of a map, when it is known of each member. -/
theorem forall_mem_asMap {α : Type} {member : Shape} {reading : Value → α} (holds : α → Prop)
    (each : ∀ value, member.Accepts value → holds (reading value)) (key : String)
    (mapped : (key, map member) ∈ known) :
    ∀ entry ∈ ((members.lookup key).map (Value.asMap reading)).getD [], holds entry.2 := by
  intro entry present
  cases found : members.lookup key with
  | none =>
      rw [found] at present
      cases present
  | some value =>
      obtain ⟨entries, rfl, accepted⟩ := exists_entries (conforms.accepted _ mapped value found)
      rw [found] at present
      obtain ⟨entry, isEntry, rfl⟩ := List.mem_map.mp present
      exact each entry.2 (accepted entry isEntry)

/-- A name that the form asks for is there, and an identifier. -/
theorem isIdentifier_name (needed : "name" ∈ required)
    (declared : ("name", text .identifier) ∈ known) :
    isIdentifier (((members.lookup "name").map Value.asString).getD "") = true := by
  obtain ⟨value, found, accepted⟩ := conforms.exists_value needed declared
  obtain ⟨content, rfl, clean⟩ := exists_text accepted
  rw [found]
  exact TextRule.holds_of_issues clean

end Members

theorem isIdentifier_field {value : Value} (accepted : field.Accepts value) :
    isIdentifier (Field.ofValue value).name = true := by
  obtain ⟨members, rfl, conforms⟩ := exists_members accepted
  exact isIdentifier_name conforms (by simp) (by simp)

theorem isIdentifier_fields {required : List String} {known : List (String × Shape)}
    {members : List (String × Value)} (conforms : Conforms required known members) (key : String)
    (listed : (key, list field) ∈ known) :
    ∀ field ∈ ((members.lookup key).map (Value.asList Field.ofValue)).getD [],
      isIdentifier field.name = true :=
  forall_mem_asList conforms _ (fun _ => isIdentifier_field) key listed

end Shape

/-- A method has an identifier for a name, and so has each of its fields. -/
def Method.IsNamed (method : Method) : Prop :=
  isIdentifier method.name = true ∧ ∀ field ∈ method.fields, isIdentifier field.name = true

theorem Method.isNamed_ofValue {value : Value} (accepted : Shape.method.Accepts value) :
    (Method.ofValue value).IsNamed := by
  obtain ⟨members, rfl, conforms⟩ := Shape.exists_members accepted
  refine ⟨Shape.isIdentifier_name conforms (by simp) (by simp), fun field member => ?_⟩
  rcases List.mem_append.mp member with isInput | isOutput
  · exact Shape.isIdentifier_fields conforms "inputs" (by simp) field isInput
  · exact Shape.isIdentifier_fields conforms "outputs" (by simp) field isOutput

/-- Every property of a type has an identifier for a name. -/
def TypeDecl.IsNamed (type : TypeDecl) : Prop :=
  ∀ field ∈ type.properties, isIdentifier field.name = true

theorem TypeDecl.isNamed_ofValue {value : Value} (accepted : Shape.type.Accepts value) :
    (TypeDecl.ofValue value).IsNamed := by
  obtain ⟨members, rfl, conforms⟩ := Shape.exists_members accepted
  exact Shape.isIdentifier_fields conforms "properties" (by simp)

theorem forall_mem_sortByName {α : Type} {name : α → String} {holds : α → Prop} {items : List α}
    (each : ∀ item ∈ items, holds item) : ∀ item ∈ sortByName name items, holds item :=
  fun item member => each item ((sortByName_perm name items).mem_iff.mp member)

/-- Every method of a schema and every type is named by identifiers. -/
structure Schema.IsNamed (schema : Schema) : Prop where
  methods : ∀ method ∈ schema.methods, method.IsNamed
  types : ∀ entry ∈ schema.types, entry.2.IsNamed

namespace Schema.IsNamed

variable {schema : Schema}

theorem ofValue {document : Value} (clean : structuralViolations document = []) :
    (Schema.ofValue document).IsNamed := by
  obtain ⟨members, rfl, conforms⟩ := Shape.exists_members ⟨[], clean⟩
  exact ⟨Shape.forall_mem_asList conforms _ (fun _ => Method.isNamed_ofValue) "methods" (by simp),
    Shape.forall_mem_asMap conforms _ (fun _ => TypeDecl.isNamed_ofValue) "types" (by simp)⟩

/-- Whatever is put in order keeps its name. -/
theorem canonicalize (named : schema.IsNamed) : schema.canonicalize.IsNamed := by
  constructor
  · refine forall_mem_sortByName (List.forall_mem_map.mpr fun method declared => ?_)
    obtain ⟨nameHere, namesWithin⟩ := named.methods method declared
    obtain ⟨ofInputs, ofOutputs⟩ := List.forall_mem_append.mp namesWithin
    exact ⟨nameHere, List.forall_mem_append.mpr
      ⟨forall_mem_sortByName ofInputs, forall_mem_sortByName ofOutputs⟩⟩
  · refine List.forall_mem_map.mpr fun entry declared => ?_
    exact forall_mem_sortByName (named.types entry declared)

theorem field (named : schema.IsNamed) {field : Field} (member : field ∈ schema.allFields) :
    isIdentifier field.name = true := by
  rw [allFields_eq, List.mem_append, List.mem_flatMap, List.mem_flatMap] at member
  rcases member with ⟨entry, declared, ofType⟩ | ⟨method, declared, ofMethod⟩
  · exact named.types entry declared field ofType
  · exact (named.methods method declared).2 field ofMethod

end Schema.IsNamed

theorem isNamed_of_load {text : String} {schema : Schema} (loaded : load text = .ok schema) :
    schema.IsNamed := by
  obtain ⟨document, declared, parsed, clean, decoded, rfl⟩ := exists_of_load loaded
  rw [Schema.eq_ofValue parsed decoded]
  exact (Schema.IsNamed.ofValue clean).canonicalize

end RpcSchema
