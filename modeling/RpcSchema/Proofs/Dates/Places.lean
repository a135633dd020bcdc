import RpcSchema.Proofs.Dates.Script
import RpcSchema.Proofs.Dates.Search

/-!
# The places of a value

Where a value stands tells what it has to be: a record with given fields, a value of a type, or an
array of such values. It also tells which of its texts are timestamps. A value that stands in a
place without timestamps, by the types that hold them, has none.
-/

namespace RpcSchema

open TsRevivers

/-- Where a value stands. -/
inductive Place
  | record (fields : List Field)
  | one (type : FieldType)
  /-- An array with elements of a type. -/
  | many (element : FieldType)

/-- Where the value of a field stands. -/
def Field.place (field : Field) : Place :=
  if field.isArray then .many field.elementType else .one field.elementType

/-- The fields that the members of an object belong to, by where it stands. -/
def Place.fields (schema : Schema) : Place → List Field
  | .record fields => fields
  | .one (.reference target) => (schema.lookup? target).elim [] TypeDecl.properties
  | _ => []

/-- The value conforms to what is declared for its place. A field may have the value null, and
`mayLack` tells the fields that may be absent. -/
inductive Fits (schema : Schema) (mayLack : Field → Prop) : Place → Json.Value → Prop
  | primitive {kind : Kind} {value : Json.Value} :
      (kind = .timestamp → ∃ text, value = .string text) →
      Fits schema mayLack (.one (.primitive kind)) value
  | reference {target : TypeRef} {type : TypeDecl} {value : Json.Value} :
      schema.lookup? target = some type → Fits schema mayLack (.record type.properties) value →
      Fits schema mayLack (.one (.reference target)) value
  | array {element : FieldType} {items : List Json.Value} :
      (∀ item ∈ items, Fits schema mayLack (.one element) item) →
      Fits schema mayLack (.many element) (.array items)
  | record {fields : List Field} {members : List (String × Json.Value)} :
      (members.map Prod.fst).Nodup →
      (∀ field ∈ fields, members.lookup field.name = none → mayLack field) →
      (∀ field ∈ fields, ∀ value, members.lookup field.name = some value → value ≠ .null →
        Fits schema mayLack field.place value) →
      Fits schema mayLack (.record fields) (.object members)

namespace Script

mutual
/-- A parsed value with its timestamps as dates. The timestamps are the texts in a place for one,
and everything else is as it was parsed. -/
def dated (schema : Schema) (place : Place) : Json.Value → Value
  | .null => .null
  | .bool value => .bool value
  | .number value => .number value
  | .string text =>
    match place with
    | .one (.primitive .timestamp) => .date (.string text)
    | _ => .string text
  | .array items =>
    match place with
    | .many element => .array (datedItems schema (.one element) items)
    | _ => .array (ofItems items)
  | .object members => .object (datedMembers schema (place.fields schema) members)

def datedItems (schema : Schema) (place : Place) : List Json.Value → List Value
  | [] => []
  | item :: rest => dated schema place item :: datedItems schema place rest

def datedMembers (schema : Schema) (fields : List Field) :
    List (String × Json.Value) → List (String × Value)
  | [] => []
  | (key, value) :: rest =>
    (key, match fields.find? fun field => field.name == key with
      | some field => dated schema field.place value
      | none => ofJson value) :: datedMembers schema fields rest
end

/-- A member of an object whose members belong to given fields. -/
def datedMember (schema : Schema) (fields : List Field) (key : String) (value : Json.Value) :
    Value :=
  match fields.find? fun field => field.name == key with
  | some field => dated schema field.place value
  | none => ofJson value

theorem ofItems_eq_map (items : List Json.Value) : ofItems items = items.map ofJson := by
  induction items with
  | nil => rfl
  | cons item rest ih => rw [ofItems, ih, List.map_cons]

theorem datedItems_eq_map (schema : Schema) (place : Place) (items : List Json.Value) :
    datedItems schema place items = items.map (dated schema place) := by
  induction items with
  | nil => rfl
  | cons item rest ih => rw [datedItems, ih, List.map_cons]

theorem datedMembers_cons (schema : Schema) (fields : List Field) (key : String)
    (value : Json.Value) (rest : List (String × Json.Value)) :
    datedMembers schema fields ((key, value) :: rest) =
      (key, datedMember schema fields key value) :: datedMembers schema fields rest := by
  rw [datedMembers]
  rfl

theorem datedMembers_nil (schema : Schema) (members : List (String × Json.Value)) :
    datedMembers schema [] members = ofMembers members := by
  induction members with
  | nil => rfl
  | cons member rest ih => rw [datedMembers, ofMembers, ih]; rfl

theorem datedMembers_eq_map (schema : Schema) (fields : List Field)
    (members : List (String × Json.Value)) :
    datedMembers schema fields members =
      members.map fun (key, value) => (key, datedMember schema fields key value) := by
  induction members with
  | nil => rfl
  | cons member rest ih => rw [datedMembers_cons, ih, List.map_cons]

/-! ## Places without timestamps -/

end Script

/-- There are timestamps in some of the values that may stand in the place. -/
def Place.HoldsTimestamp (schema : Schema) : Place → Prop
  | .record fields => ∃ field ∈ fields, schema.FieldHoldsTimestamp field
  | .one type => schema.ValuesHoldTimestamp type
  | .many element => schema.ValuesHoldTimestamp element

theorem Field.holdsTimestamp_place (schema : Schema) (field : Field) :
    field.place.HoldsTimestamp schema ↔ schema.FieldHoldsTimestamp field := by
  unfold Field.place
  split <;> rfl

theorem Place.holdsTimestamp_of_mem_fields {schema : Schema} {place : Place} {field : Field}
    (member : field ∈ place.fields schema) (holds : schema.FieldHoldsTimestamp field) :
    place.HoldsTimestamp schema := by
  cases place with
  | record fields => exact ⟨field, member, holds⟩
  | many element => exact absurd member List.not_mem_nil
  | one type =>
      cases type with
      | primitive kind => exact absurd member List.not_mem_nil
      | reference target =>
          cases found : schema.lookup? target with
          | none => simp [Place.fields, found] at member
          | some type =>
              have declared : (target.name, type) ∈ schema.types := Json.mem_of_lookup_eq_some found
              replace member : field ∈ type.properties := by
                simpa [Place.fields, found] using member
              refine .inr ⟨target, rfl, ?_⟩
              rcases holds with timestamp | ⟨other, isReference, holds⟩
              · exact ⟨target.name, .refl, type, declared, field, member, timestamp⟩
              · exact holds.of_refersTo ⟨type, declared, field, member, other, isReference, rfl⟩

namespace Script

mutual
/-- A value in a place without timestamps is as it was parsed. -/
theorem dated_of_not_holdsTimestamp {schema : Schema} {place : Place}
    (free : ¬ place.HoldsTimestamp schema) :
    ∀ value, dated schema place value = ofJson value
  | .null => rfl
  | .bool _ => rfl
  | .number _ => rfl
  | .string text => by
      unfold dated
      split
      · exact absurd (.inl rfl) free
      · rfl
  | .array items => by
      unfold dated
      split
      · next element =>
          have freeElement : ¬ (Place.one element).HoldsTimestamp schema := free
          rw [ofJson, datedItems_of_not_holdsTimestamp freeElement]
      · rfl
  | .object members => by
      rw [dated, ofJson, datedMembers_of_not_holdsTimestamp fun field member holds =>
        free (Place.holdsTimestamp_of_mem_fields member holds)]

theorem datedItems_of_not_holdsTimestamp {schema : Schema} {place : Place}
    (free : ¬ place.HoldsTimestamp schema) :
    ∀ items, datedItems schema place items = ofItems items
  | [] => rfl
  | item :: rest => by
      rw [datedItems, ofItems, dated_of_not_holdsTimestamp free,
        datedItems_of_not_holdsTimestamp free]

theorem datedMembers_of_not_holdsTimestamp {schema : Schema} {fields : List Field}
    (free : ∀ field ∈ fields, ¬ schema.FieldHoldsTimestamp field) :
    ∀ members, datedMembers schema fields members = ofMembers members
  | [] => rfl
  | (key, value) :: rest => by
      rw [datedMembers, ofMembers, datedMembers_of_not_holdsTimestamp free]
      split
      · next field found =>
          have holds := free field (List.mem_of_find?_eq_some found)
          rw [dated_of_not_holdsTimestamp (mt (Field.holdsTimestamp_place schema field).mp holds)]
      · rfl
end

end Script

end RpcSchema
