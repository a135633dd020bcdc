import RpcSchema.Proofs.Code.Literals
import RpcSchema.Proofs.Json.AsWritten
import RpcSchema.Proofs.Schema.Equality
import RpcSchema.Proofs.Schema.Names
import RpcSchema.Proofs.Validation.Acceptance

/-!
# Locations of fields

A location is made of names with dots between them, and nothing keeps dots out of the keys of types.
It is told apart from its end: the name of a field has no dot, so what stands in front of the last
one is what the owner is called, and no two owners are called the same. The key of a type is then
whatever is left, dots and all.

A type and a field may still share a location. Without a description the type `a.b` is remarked on
at `types.a.b`, which is also where the field `b` of the type `a` is.
-/

namespace RpcSchema

open Json

/-! ## Keys of types -/

/-- The types of a value in order have ascending keys. -/
theorem Schema.keys_ofValue {document : Value} (clean : structuralViolations document = [])
    (inOrder : document.IsOrdered) :
    (Schema.ofValue document).types.Pairwise fun first second => first.1 < second.1 := by
  obtain ⟨members, rfl, -⟩ := Shape.exists_members ⟨[], clean⟩
  show (((members.lookup "types").map (Value.asMap TypeDecl.ofValue)).getD []).Pairwise _
  cases found : members.lookup "types" with
  | none => exact List.Pairwise.nil
  | some value =>
      cases inOrder with
      | object _ each =>
          cases each _ (mem_of_lookup_eq_some found) with
          | object ascending _ => exact List.pairwise_map.mpr ascending
          | _ => exact List.Pairwise.nil

theorem nodup_typeKeys_of_load {text : String} {schema : Schema}
    (loaded : load text = .ok schema) : schema.typeKeys.Nodup := by
  obtain ⟨document, declared, parsed, clean, decoded, rfl⟩ := exists_of_load loaded
  have ascending := Schema.keys_ofValue clean (isOrdered_of_ofText parsed)
  rw [← Schema.eq_ofValue parsed decoded] at ascending
  show ((declared.types.map fun entry => (entry.1, entry.2.canonicalize entry.1)).map (·.1)).Nodup
  rw [List.map_map]
  refine List.pairwise_map.mpr (ascending.imp ?_)
  rintro entry other before same
  change entry.1 = other.1 at same
  rw [same] at before
  exact String.lt_irrefl _ before

/-! ## Places of fields -/

/-- What declares fields: a type, or the inputs or the outputs of a method, by its place among the
others. -/
inductive OwnerPlace
  | type (index : Nat)
  | inputs (method : Nat)
  | outputs (method : Nat)
deriving DecidableEq

/-- Where a field is declared. -/
structure FieldPlace where
  owner : OwnerPlace
  index : Nat
deriving DecidableEq

/-- The location of a field of an owner. -/
def locationIn (owner name : String) : String := owner ++ "." ++ name

/-- The fields of an owner with their locations. -/
def located (owner : String × List Field) : List (String × Field) :=
  owner.2.map fun field => (locationIn owner.1 field.name, field)

/-- A type as an owner of fields. In locations it goes by its key. -/
def typeOwner (entry : String × TypeDecl) : String × List Field :=
  ("types." ++ entry.1, entry.2.properties)

/-- The inputs of a method as an owner of fields. -/
def inputsOwner (method : Method) : String × List Field :=
  (locationIn ("methods." ++ method.name) "inputs", method.inputs)

/-- The outputs of a method as an owner of fields. -/
def outputsOwner (method : Method) : String × List Field :=
  (locationIn ("methods." ++ method.name) "outputs", method.outputs)

/-- A list is what stands at its indices, in their order. -/
theorem map_range_getElem? {α β : Type} (items : List α) (value : α → β) :
    ((List.range items.length).map fun index => items[index]?.map value) =
      items.map fun item => some (value item) := by
  refine List.ext_getElem (by simp) fun index inRange _ => ?_
  have inItems : index < items.length := by simpa using inRange
  simp [inItems]

namespace Schema

variable (schema : Schema)

/-- What is declared at a place of an owner. -/
def owner? : OwnerPlace → Option (String × List Field)
  | .type index => schema.types[index]?.map typeOwner
  | .inputs method => schema.methods[method]?.map inputsOwner
  | .outputs method => schema.methods[method]?.map outputsOwner

/-- The located fields of the owner at a place; none where there is no owner. -/
def fieldsAt (owner : OwnerPlace) : List (String × Field) :=
  ((schema.owner? owner).map located).getD []

/-- The field that is declared at a place, with its location. -/
def declared? (place : FieldPlace) : Option (String × Field) :=
  (schema.fieldsAt place.owner)[place.index]?

/-- The owners by their names in locations: the types, then the inputs and the outputs of each
method. -/
def namedOwners : List (String × List Field) :=
  schema.types.map typeOwner ++
    schema.methods.flatMap fun method => [inputsOwner method, outputsOwner method]

/-- The places of all owners. -/
def ownerPlaces : List OwnerPlace :=
  (List.range schema.types.length).map .type ++
    (List.range schema.methods.length).flatMap fun method => [.inputs method, .outputs method]

/-- The places of the fields of an owner. -/
def placesIn (owner : OwnerPlace) : List FieldPlace :=
  (List.range (schema.fieldsAt owner).length).map (.mk owner)

/-- The places of all fields. -/
def places : List FieldPlace := schema.ownerPlaces.flatMap schema.placesIn

theorem mem_ownerPlaces_iff (owner : OwnerPlace) :
    owner ∈ schema.ownerPlaces ↔ (schema.owner? owner).isSome = true := by
  unfold ownerPlaces owner?
  cases owner <;> simp

theorem mem_placesIn_iff {owner : OwnerPlace} {place : FieldPlace} :
    place ∈ schema.placesIn owner ↔
      place.owner = owner ∧ (schema.declared? place).isSome = true := by
  obtain ⟨home, index⟩ := place
  unfold placesIn declared?
  rw [List.mem_map]
  constructor
  · rintro ⟨index, inRange, same⟩
    cases same
    exact ⟨rfl, by simpa using inRange⟩
  · rintro ⟨same, declared⟩
    change home = owner at same
    subst same
    exact ⟨index, by simpa using declared, rfl⟩

/-- A place is listed exactly when a field is declared there. -/
theorem mem_places_iff (place : FieldPlace) :
    place ∈ schema.places ↔ (schema.declared? place).isSome = true := by
  unfold places
  rw [List.mem_flatMap]
  constructor
  · rintro ⟨owner, -, member⟩
    exact (schema.mem_placesIn_iff.mp member).2
  · intro declared
    refine ⟨place.owner, (schema.mem_ownerPlaces_iff place.owner).mpr ?_,
      schema.mem_placesIn_iff.mpr ⟨rfl, declared⟩⟩
    unfold declared? fieldsAt at declared
    cases found : schema.owner? place.owner with
    | none => simp [found] at declared
    | some owner => rfl

theorem nodup_ownerPlaces : schema.ownerPlaces.Nodup := by
  unfold ownerPlaces
  rw [List.nodup_append]
  refine ⟨List.nodup_range.map fun _ _ same => OwnerPlace.type.inj same, ?_, ?_⟩
  · rw [List.nodup_flatMap]
    refine ⟨fun method _ => by simp, List.nodup_range.imp ?_⟩
    intro method other apart
    simpa [Function.onFun] using apart.symm
  · intro owner isType other ofMethod same
    obtain ⟨index, -, rfl⟩ := List.mem_map.mp isType
    obtain ⟨method, -, listed⟩ := List.mem_flatMap.mp ofMethod
    subst same
    simp at listed

/-- No place is listed twice. -/
theorem nodup_places : schema.places.Nodup := by
  unfold places
  rw [List.nodup_flatMap]
  constructor
  · intro owner _
    exact List.nodup_range.map fun _ _ same => (FieldPlace.mk.inj same).2
  · refine schema.nodup_ownerPlaces.imp ?_
    intro owner other apart place inOwner inOther
    have here := (schema.mem_placesIn_iff.mp inOwner).1
    have there := (schema.mem_placesIn_iff.mp inOther).1
    exact apart (here.symm.trans there)

/-! ## Fields at their places -/

theorem map_owner?_ownerPlaces :
    schema.ownerPlaces.map schema.owner? = schema.namedOwners.map some := by
  have ofMethods :
      ((List.range schema.methods.length).flatMap fun method =>
          [schema.owner? (.inputs method), schema.owner? (.outputs method)]) =
        schema.methods.flatMap fun method =>
          [some (inputsOwner method), some (outputsOwner method)] := by
    have all := map_range_getElem? schema.methods id
    have both := congrArg
      (List.flatMap fun method => [method.map inputsOwner, method.map outputsOwner]) all
    simpa [List.flatMap_map, owner?] using both
  unfold ownerPlaces namedOwners
  simp only [List.map_append, List.map_map, List.map_flatMap, List.map_cons, List.map_nil]
  exact congrArg₂ _ (map_range_getElem? schema.types typeOwner) ofMethods

theorem map_declared?_placesIn (owner : OwnerPlace) :
    (schema.placesIn owner).map schema.declared? = (schema.fieldsAt owner).map some := by
  unfold placesIn
  rw [List.map_map]
  refine Eq.trans ?_ (map_range_getElem? (schema.fieldsAt owner) id)
  refine List.map_congr_left fun index _ => ?_
  show (schema.fieldsAt owner)[index]? = _
  rw [Option.map_id, id]

theorem fields_eq_flatMap (named : ∀ entry ∈ schema.types, entry.2.name = entry.1) :
    schema.fields = schema.namedOwners.flatMap located := by
  have ofType : ∀ entry ∈ schema.types,
      (entry.2.properties.map fun field =>
        ("types." ++ entry.2.name ++ "." ++ field.name, field)) = located (typeOwner entry) := by
    intro entry declared
    rw [named entry declared]
    rfl
  have inputs : ".inputs." = "." ++ ("inputs" ++ ".") := by decide
  have outputs : ".outputs." = "." ++ ("outputs" ++ ".") := by decide
  unfold fields namedOwners
  rw [List.flatMap_append, List.flatMap_map, List.flatMap_assoc]
  congr 1
  · exact List.flatMap_congr ofType
  · simp only [List.flatMap_cons, List.flatMap_nil, List.append_nil, located, locationIn,
      inputsOwner, outputsOwner, inputs, outputs, String.append_assoc]

/-- The located fields are those that are declared, place by place. -/
theorem map_declared?_places (named : ∀ entry ∈ schema.types, entry.2.name = entry.1) :
    schema.places.map schema.declared? = schema.fields.map some := by
  unfold places
  rw [List.map_flatMap]
  simp only [map_declared?_placesIn]
  calc schema.ownerPlaces.flatMap (fun owner => (schema.fieldsAt owner).map some)
      = (schema.ownerPlaces.map schema.owner?).flatMap
          fun owner => ((owner.map located).getD []).map some := by
        rw [List.flatMap_map]
        rfl
    _ = schema.namedOwners.flatMap fun owner => (located owner).map some := by
        rw [map_owner?_ownerPlaces, List.flatMap_map]
        rfl
    _ = schema.fields.map some := by
        rw [schema.fields_eq_flatMap named, List.map_flatMap]

end Schema

/-! ## Locations apart -/

/-- Where a mark is the last one, nothing stands between two of its kind. -/
theorem between_eq_nil {mark : Char} {name between rest : List Char} (plain : mark ∉ name)
    (same : mark :: name = between ++ mark :: rest) : between = [] := by
  cases between with
  | nil => rfl
  | cons first more =>
      obtain ⟨-, rfl⟩ := List.cons.inj same
      exact absurd (List.mem_append_right more List.mem_cons_self) plain

/-- A text is taken apart in one way at its last mark. -/
theorem append_last_inj {mark : Char} {front other name rest : List Char} (plain : mark ∉ name)
    (plainToo : mark ∉ rest) (same : front ++ mark :: name = other ++ mark :: rest) :
    front = other ∧ name = rest := by
  rcases List.append_eq_append_iff.mp same with ⟨between, rfl, goesOn⟩ | ⟨between, rfl, goesOn⟩
  · obtain rfl := between_eq_nil plain goesOn
    exact ⟨(List.append_nil front).symm, (List.cons.inj goesOn).2⟩
  · obtain rfl := between_eq_nil plainToo goesOn
    exact ⟨List.append_nil other, (List.cons.inj goesOn).2.symm⟩

/-- Whatever an owner is called, its name and that of its field are told from the location: the
name of the field has no dot. -/
theorem locationIn_inj {owner other name rest : String} (plain : '.' ∉ name.toList)
    (plainToo : '.' ∉ rest.toList) (same : locationIn owner name = locationIn other rest) :
    owner = other ∧ name = rest := by
  have spelled := congrArg String.toList same
  simp only [locationIn, String.toList_append, List.append_assoc] at spelled
  obtain ⟨ofOwner, ofName⟩ := append_last_inj plain plainToo spelled
  exact ⟨String.toList_inj.mp ofOwner, String.toList_inj.mp ofName⟩

theorem typeOwner_name_inj {entry other : String × TypeDecl}
    (same : (typeOwner entry).1 = (typeOwner other).1) : entry.1 = other.1 :=
  (String.append_right_inj _).mp same

/-- What the inputs or the outputs of a method are called ends without a dot, too. -/
theorem exists_side {method : Method} {owner : String × List Field}
    (ofMethod : owner ∈ [inputsOwner method, outputsOwner method]) :
    ∃ side, '.' ∉ side.toList ∧ owner.1 = locationIn ("methods." ++ method.name) side := by
  rcases List.mem_pair.mp ofMethod with rfl | rfl
  · exact ⟨"inputs", by decide, rfl⟩
  · exact ⟨"outputs", by decide, rfl⟩

/-- A method is told from what its inputs or its outputs are called. -/
theorem method_name_of_owner {method other : Method} {owner another : String × List Field}
    (ofMethod : owner ∈ [inputsOwner method, outputsOwner method])
    (ofOther : another ∈ [inputsOwner other, outputsOwner other]) (same : owner.1 = another.1) :
    method.name = other.name := by
  obtain ⟨side, plain, called⟩ := exists_side ofMethod
  obtain ⟨otherSide, plainToo, calledToo⟩ := exists_side ofOther
  rw [called, calledToo] at same
  exact (String.append_right_inj _).mp (locationIn_inj plain plainToo same).1

/-- Locations of types start in another way than those of methods. -/
theorem typeOwner_ne_methodOwner (entry : String × TypeDecl) {method : Method}
    {owner : String × List Field} (ofMethod : owner ∈ [inputsOwner method, outputsOwner method]) :
    (typeOwner entry).1 ≠ owner.1 := by
  intro same
  have first := congrArg (fun name => name.toList.head?) same
  rcases List.mem_pair.mp ofMethod with rfl | rfl <;>
    simp [typeOwner, inputsOwner, outputsOwner, locationIn] at first

theorem Lint.location_of_fieldShapeRemarks {location : String} {field : Field}
    {diagnostic : Diagnostic} (made : diagnostic ∈ fieldShapeRemarks location field) :
    diagnostic.location = some location := by
  unfold fieldShapeRemarks at made
  rcases List.mem_append.mp made with ofEnum | ofItems
  · split at ofEnum
    · exact List.mem_singleton.mp ofEnum ▸ rfl
    · cases ofEnum
  · split at ofItems
    · exact List.mem_singleton.mp ofItems ▸ rfl
    · cases ofItems

namespace Schema

/-- What keeps the locations of fields apart: no name stands twice where it is looked up, and the
names of fields have no dots. Keys of types may have dots, and so may names of methods. -/
structure NamesApart (schema : Schema) : Prop where
  named : ∀ entry ∈ schema.types, entry.2.name = entry.1
  types : schema.typeKeys.Nodup
  methods : (schema.methods.map Method.name).Nodup
  fields : ∀ fields ∈ schema.owners, (fields.map Field.name).Nodup
  plain : ∀ field ∈ schema.allFields, '.' ∉ field.name.toList

theorem snd_mem_owners {schema : Schema} {owner : String × List Field}
    (listed : owner ∈ schema.namedOwners) : owner.2 ∈ schema.owners := by
  have all : schema.namedOwners.map Prod.snd = schema.owners := by
    simp [namedOwners, owners, List.map_flatMap, Function.comp_def, typeOwner, inputsOwner,
      outputsOwner]
  exact all ▸ List.mem_map_of_mem listed

namespace NamesApart

variable {schema : Schema} (apart : schema.NamesApart)
include apart

/-- No two owners are called the same. -/
theorem nodup_owners : (schema.namedOwners.map Prod.fst).Nodup := by
  unfold namedOwners
  rw [List.map_append, List.map_map, List.map_flatMap, List.nodup_append]
  refine ⟨?ofTypes, ?ofMethods, ?between⟩
  case ofTypes =>
    exact nodup_map_of_nodup_map apart.types fun _ _ => typeOwner_name_inj
  case ofMethods =>
    rw [List.nodup_flatMap]
    constructor
    · intro method _
      have differ : (inputsOwner method).1 ≠ (outputsOwner method).1 := by
        intro same
        exact absurd (locationIn_inj (by decide) (by decide) same).2 (by decide)
      simpa using differ
    · refine (List.pairwise_map.mp apart.methods).imp ?_
      intro method other differ name ofMethod ofOther
      obtain ⟨owner, isOwner, rfl⟩ := List.mem_map.mp ofMethod
      obtain ⟨another, isAnother, same⟩ := List.mem_map.mp ofOther
      exact differ (method_name_of_owner isOwner isAnother same.symm)
  case between =>
    intro name ofType other ofMethod
    obtain ⟨entry, -, rfl⟩ := List.mem_map.mp ofType
    obtain ⟨method, -, called⟩ := List.mem_flatMap.mp ofMethod
    obtain ⟨owner, isOwner, rfl⟩ := List.mem_map.mp called
    exact typeOwner_ne_methodOwner entry isOwner

theorem plain_of_mem {owner : String × List Field} (listed : owner ∈ schema.namedOwners)
    {location : String} (here : location ∈ (located owner).map Prod.fst) :
    ∃ name, '.' ∉ name.toList ∧ location = locationIn owner.1 name := by
  obtain ⟨_, isLocated, rfl⟩ := List.mem_map.mp here
  obtain ⟨field, member, rfl⟩ := List.mem_map.mp isLocated
  have declared : field ∈ schema.allFields :=
    List.mem_flatten.mpr ⟨owner.2, snd_mem_owners listed, member⟩
  exact ⟨field.name, apart.plain field declared, rfl⟩

/-- No two fields have one location. -/
theorem nodup_locations : (schema.fields.map Prod.fst).Nodup := by
  rw [schema.fields_eq_flatMap apart.named, List.map_flatMap, List.nodup_flatMap]
  constructor
  · intro owner listed
    have names := apart.fields owner.2 (snd_mem_owners listed)
    show ((owner.2.map fun field => (locationIn owner.1 field.name, field)).map Prod.fst).Nodup
    rw [List.map_map]
    exact nodup_map_of_nodup_map names fun _ _ => (String.append_right_inj _).mp
  · refine (List.pairwise_map.mp apart.nodup_owners).imp_of_mem ?_
    intro owner other listed listedToo differ location ofOwner ofOther
    obtain ⟨name, plain, rfl⟩ := apart.plain_of_mem listed ofOwner
    obtain ⟨rest, plainToo, same⟩ := apart.plain_of_mem listedToo ofOther
    exact differ (locationIn_inj plain plainToo same).1

/-- The location of a field is that of one place only. -/
theorem existsUnique_place {location : String} (listed : location ∈ schema.fields.map Prod.fst) :
    ∃! place, (schema.declared? place).map Prod.fst = some location := by
  have locations : schema.places.map (fun place => (schema.declared? place).map Prod.fst) =
      (schema.fields.map Prod.fst).map some := by
    have each := congrArg (List.map (Option.map Prod.fst)) (schema.map_declared?_places apart.named)
    simpa only [List.map_map, Function.comp_def, Option.map_some] using each
  have distinct := apart.nodup_locations.map (Option.some_injective String)
  rw [← locations] at distinct
  have present : some location ∈ schema.places.map fun place =>
      (schema.declared? place).map Prod.fst := locations ▸ List.mem_map_of_mem listed
  obtain ⟨place, isPlace, here⟩ := List.mem_map.mp present
  refine ⟨place, here, ?_⟩
  intro other there
  have isSome : (schema.declared? other).isSome = true := by
    rw [← Option.isSome_map, there]
    rfl
  exact List.inj_on_of_nodup_map distinct ((schema.mem_places_iff other).mpr isSome) isPlace
    (there.trans here.symm)

/-- A remark on a reference or on the shape of a field names one field, also where it keeps a schema
from being accepted. -/
theorem existsUnique_of_remark {diagnostic : Diagnostic}
    (made : diagnostic ∈ Lint.danglingReference.check schema ++ Lint.fieldShape.check schema) :
    ∃! place, (schema.declared? place).map Prod.fst = diagnostic.location := by
  have ofField : ∃ location ∈ schema.fields.map Prod.fst, diagnostic.location = some location := by
    rcases List.mem_append.mp made with ofReference | ofShape
    · obtain ⟨_, dangling, rfl⟩ := List.mem_map.mp ofReference
      obtain ⟨entry, listed, reported⟩ := List.mem_flatMap.mp dangling
      obtain ⟨target, -, rfl⟩ := List.mem_map.mp reported
      exact ⟨entry.1, List.mem_map_of_mem listed, rfl⟩
    · obtain ⟨entry, listed, reported⟩ := List.mem_flatMap.mp ofShape
      exact ⟨entry.1, List.mem_map_of_mem listed, Lint.location_of_fieldShapeRemarks reported⟩
  obtain ⟨location, listed, here⟩ := ofField
  rw [here]
  exact apart.existsUnique_place listed

end NamesApart

/-- In a loaded schema the names are apart as soon as no method and no field is declared twice. -/
theorem namesApart_of_load {text : String} (loaded : load text = .ok schema)
    (methods : (schema.methods.map Method.name).Nodup)
    (fields : ∀ fields ∈ schema.owners, (fields.map Field.name).Nodup) : schema.NamesApart where
  named := (isCanonical_of_load loaded).named
  types := nodup_typeKeys_of_load loaded
  methods := methods
  fields := fields
  plain := fun _ member =>
    Code.not_mem_of_isIdentifier ((isNamed_of_load loaded).field member) (by decide)

end Schema

/-- In an accepted schema every declared field is listed once, and its location leads back to the
one place where it is declared, whatever the keys of the types are. -/
theorem locations_identify_fields {text : String} {schema : Schema}
    (loaded : load text = .ok schema) (accepted : schema.Accepted) :
    schema.places.Nodup ∧
      (∀ place, place ∈ schema.places ↔ (schema.declared? place).isSome = true) ∧
      schema.places.map schema.declared? = schema.fields.map some ∧
      (schema.fields.map Prod.fst).Nodup ∧
      ∀ location ∈ schema.fields.map Prod.fst,
        ∃! place, (schema.declared? place).map Prod.fst = some location := by
  have apart : schema.NamesApart :=
    Schema.namesApart_of_load loaded accepted.method_names_nodup fun _ => accepted.names_nodup
  exact ⟨schema.nodup_places, schema.mem_places_iff, schema.map_declared?_places apart.named,
    apart.nodup_locations, fun _ => apart.existsUnique_place⟩

/-- A type whose key goes on behind the key of another as a location does, and one whose key looks
like the inputs of the method. -/
def dottedKeys : Schema :=
  { name := "k"
    version := ""
    methods := [{ name := "b", inputs := [{ name := "c", type := .primitive .string }] }]
    types := [
      ("a", { name := "a", properties := [{ name := "b", type := .primitive .string }] }),
      ("a.b", { name := "a.b", properties := [
        { name := "b", type := .primitive .string },
        { name := "c", type := .primitive .string }] }),
      ("b.inputs", { name := "b.inputs", properties := [
        { name := "c", type := .primitive .string }] })] }

def dottedKeysText : String :=
  "\x7b\"name\":\"k\",\"version\":\"\",\"description\":\"\",\"groups\":[],\"types\":\x7b" ++
    "\"a\":\x7b\"properties\":[\x7b\"name\":\"b\",\"type\":\"string\"\x7d]\x7d," ++
    "\"a.b\":\x7b\"properties\":[\x7b\"name\":\"b\",\"type\":\"string\"\x7d," ++
    "\x7b\"name\":\"c\",\"type\":\"string\"\x7d]\x7d," ++
    "\"b.inputs\":\x7b\"properties\":[\x7b\"name\":\"c\",\"type\":\"string\"\x7d]\x7d\x7d," ++
    "\"methods\":[\x7b\"name\":\"b\",\"inputs\":[" ++
    "\x7b\"name\":\"c\",\"type\":\"string\"\x7d]\x7d]\x7d"

theorem locations_identify_fields_dottedKeys :
    load dottedKeysText = .ok dottedKeys ∧ dottedKeys.Accepted ∧
      dottedKeys.fields.map Prod.fst =
        ["types.a.b", "types.a.b.b", "types.a.b.c", "types.b.inputs.c", "methods.b.inputs.c"] ∧
      ∃! place, (dottedKeys.declared? place).map Prod.fst = some "types.a.b" := by
  have canonical : dottedKeys.IsCanonical :=
    ⟨by decide, by decide, by decide, by decide, by decide, by decide⟩
  have loads : load dottedKeysText = .ok dottedKeys :=
    load_of_canonical canonical
      (.append (.append (.append (.append (.append (.append .literal .literal) .literal) .literal)
        .literal) .literal) .literal)
      (by decide +kernel) (eq_ok_of_toOption (by decide +kernel))
  have accepted : dottedKeys.Accepted := .of_clean (.inl rfl) (by decide +kernel)
  have locations : dottedKeys.fields.map Prod.fst =
      ["types.a.b", "types.a.b.b", "types.a.b.c", "types.b.inputs.c", "methods.b.inputs.c"] := by
    decide +kernel
  obtain ⟨-, -, -, -, unique⟩ := locations_identify_fields loads accepted
  exact ⟨loads, accepted, locations, unique _ (locations ▸ List.mem_cons_self)⟩

end RpcSchema
