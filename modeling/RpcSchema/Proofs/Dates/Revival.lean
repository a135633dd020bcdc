import RpcSchema.Proofs.Dates.Closure
import RpcSchema.Proofs.Dates.Places
import RpcSchema.Proofs.Schema.Equality
import RpcSchema.Proofs.Validation.Acceptance

/-!
# Revived responses

A method of a client gives its caller the parsed response with the timestamps as dates. The reviver
of a record goes through its fields one by one, and behind each the members are those of the object
with the fields so far revived. A reviver calls others only for values inside its own, so that calls
nest no deeper than the value does.
-/

namespace RpcSchema

open Naming TsRevivers TsClient

namespace Script

/-! ## How deep values nest -/

mutual
/-- How deep the arrays and objects of a value nest. -/
def depth : Json.Value → Nat
  | .null => 0
  | .bool _ => 0
  | .number _ => 0
  | .string _ => 0
  | .array items => depthItems items + 1
  | .object members => depthMembers members + 1

def depthItems : List Json.Value → Nat
  | [] => 0
  | item :: rest => max (depth item) (depthItems rest)

def depthMembers : List (String × Json.Value) → Nat
  | [] => 0
  | (_, value) :: rest => max (depth value) (depthMembers rest)
end

theorem depth_lt_of_mem {items : List Json.Value} {item : Json.Value} (member : item ∈ items) :
    depth item < depth (.array items) := by
  rw [depth, Nat.lt_succ_iff]
  induction member with
  | head rest => exact Nat.le_max_left _ _
  | tail first _ ih => exact ih.trans (Nat.le_max_right _ _)

theorem depth_lt_of_lookup {members : List (String × Json.Value)} {key : String}
    {value : Json.Value} (found : members.lookup key = some value) :
    depth value < depth (.object members) := by
  have member := Json.mem_of_lookup_eq_some found
  rw [depth, Nat.lt_succ_iff]
  clear found
  induction member with
  | head rest => exact Nat.le_max_left _ _
  | tail first _ ih => exact ih.trans (Nat.le_max_right _ _)

/-! ## One field -/

theorem lookup_datedMembers (schema : Schema) (fields : List Field)
    (members : List (String × Json.Value)) (key : String) :
    (datedMembers schema fields members).lookup key =
      (members.lookup key).map (datedMember schema fields key) := by
  rw [datedMembers_eq_map]
  induction members with
  | nil => rfl
  | cons member rest ih =>
      rw [List.map_cons, Json.lookup_cons_eq, Json.lookup_cons_eq, ih]
      split
      · next same => rw [same, Option.map_some]
      · rfl

section Field

variable {schema : Schema} {before : List Field} {field : Field}

theorem find?_eq_none_of_new (isNew : field.name ∉ before.map Field.name) :
    (before.find? fun other => other.name == field.name) = none := by
  simpa [List.find?_eq_none] using isNew

theorem datedMember_of_new (isNew : field.name ∉ before.map Field.name) (value : Json.Value) :
    datedMember schema before field.name value = ofJson value := by
  rw [datedMember, find?_eq_none_of_new isNew]

theorem datedMember_append_self (isNew : field.name ∉ before.map Field.name) (value : Json.Value) :
    datedMember schema (before ++ [field]) field.name value = dated schema field.place value := by
  rw [datedMember, List.find?_append, find?_eq_none_of_new isNew]
  simp

theorem datedMember_append_of_ne {key : String} (other : key ≠ field.name) (value : Json.Value) :
    datedMember schema (before ++ [field]) key value = datedMember schema before key value := by
  rw [datedMember, datedMember, List.find?_append]
  simp [other.symm]

/-- A field that an object has no member for changes nothing in it. -/
theorem datedMembers_append_of_not_mem {members : List (String × Json.Value)}
    (absent : field.name ∉ members.map Prod.fst) :
    datedMembers schema (before ++ [field]) members = datedMembers schema before members := by
  rw [datedMembers_eq_map, datedMembers_eq_map]
  refine List.map_congr_left fun (key, value) member => ?_
  have other : key ≠ field.name := fun same => absent (same ▸ List.mem_map_of_mem member)
  simp only [datedMember_append_of_ne other]

/-- One more field changes the member of its name. -/
theorem datedMembers_append {members : List (String × Json.Value)} {value : Json.Value}
    (isNew : field.name ∉ before.map Field.name) (keys : (members.map Prod.fst).Nodup)
    (found : members.lookup field.name = some value) :
    datedMembers schema (before ++ [field]) members =
      assign field.name (dated schema field.place value) (datedMembers schema before members) := by
  induction members with
  | nil => cases found
  | cons member rest ih =>
      obtain ⟨key, first⟩ := member
      obtain ⟨absent, keys⟩ := List.nodup_cons.mp keys
      rw [Json.lookup_cons_eq] at found
      rw [datedMembers_cons, datedMembers_cons, assign]
      split at found
      · next same =>
          obtain rfl := Option.some.inj found
          rw [if_pos same, ← same, datedMember_append_self isNew,
            datedMembers_append_of_not_mem (same ▸ absent)]
      · next other =>
          rw [if_neg other, datedMember_append_of_ne (Ne.symm other), ih keys found]

/-- Putting a value where it stands already changes nothing. -/
theorem assign_of_lookup {members : List (String × Value)} {key : String} {value : Value}
    (found : members.lookup key = some value) : assign key value members = members := by
  induction members with
  | nil => cases found
  | cons member rest ih =>
      obtain ⟨other, old⟩ := member
      rw [Json.lookup_cons_eq] at found
      rw [assign]
      split at found
      · next same => rw [if_pos same, ← Option.some.inj found, same]
      · next different => rw [if_neg different, ih found]

theorem eq_null_of_ofJson {value : Json.Value} (null : ofJson value = .null) : value = .null := by
  cases value with
  | null => rfl
  | bool | number | string | array | object => cases null

/-- The statement of a field turns the timestamps of its member into dates, given that its action
does. -/
theorem runStatement_append {call : String → Value → Option Value} {action : Action}
    {members : List (String × Json.Value)} (isNew : field.name ∉ before.map Field.name)
    (keys : (members.map Prod.fst).Nodup)
    (lacks : members.lookup field.name = none → field.name ∉ inheritedKeys)
    (acts : ∀ value, members.lookup field.name = some value → value ≠ .null →
      runAction call action (ofJson value) = some (dated schema field.place value)) :
    runStatement call (datedMembers schema before members) ⟨field.name, action⟩ =
      some (datedMembers schema (before ++ [field]) members) := by
  have stands := lookup_datedMembers schema before members field.name
  cases found : members.lookup field.name with
  | none =>
      have absent : field.name ∉ members.map Prod.fst := by
        rintro listed
        obtain ⟨value, isValue⟩ := Json.exists_lookup_of_mem_keys listed
        simp [found] at isValue
      rw [found, Option.map_none] at stands
      have nothing : read (datedMembers schema before members) field.name = none := by
        simp [read, stands, lacks found]
      rw [runStatement, nothing, datedMembers_append_of_not_mem absent]
  | some value =>
      rw [found, Option.map_some, datedMember_of_new isNew] at stands
      have there : read (datedMembers schema before members) field.name = some (ofJson value) := by
        rw [read, stands]
      rw [datedMembers_append isNew keys found]
      by_cases null : value = .null
      · subst null
        rw [runStatement, there]
        exact congrArg some (assign_of_lookup stands).symm
      · rw [runStatement, there]
        split
        · next none => cases none
        · next isNull => exact absurd (eq_null_of_ofJson (Option.some.inj isNull)) null
        · next isValue =>
            obtain rfl := Option.some.inj isValue
            rw [acts value found null, Option.map_some]

end Field

/-- The statements of fields turn their timestamps into dates, one field after the other. -/
theorem runStatements_append {schema : Schema} {call : String → Value → Option Value}
    {members : List (String × Json.Value)} (keys : (members.map Prod.fst).Nodup)
    {before fields : List Field} (names : ((before ++ fields).map Field.name).Nodup)
    (lacks : ∀ field ∈ fields, members.lookup field.name = none → field.name ∉ inheritedKeys)
    (acts : ∀ field ∈ fields, ∀ value, members.lookup field.name = some value → value ≠ .null →
      runAction call (actionOf field) (ofJson value) = some (dated schema field.place value)) :
    (fields.map fun field => Statement.mk field.name (actionOf field)).foldlM (runStatement call)
        (datedMembers schema before members) =
      some (datedMembers schema (before ++ fields) members) := by
  induction fields generalizing before with
  | nil => rw [List.append_nil]; rfl
  | cons field rest ih =>
      have isNew : field.name ∉ before.map Field.name := by
        rw [List.map_append, List.nodup_append] at names
        intro listed
        exact names.2.2 _ listed _ (List.mem_map_of_mem List.mem_cons_self) rfl
      rw [List.map_cons, List.foldlM_cons,
        runStatement_append isNew keys (lacks field List.mem_cons_self)
          (acts field List.mem_cons_self)]
      rw [List.append_cons before field rest] at names ⊢
      exact ih names (fun other member => lacks other (List.mem_cons_of_mem _ member))
        fun other member => acts other (List.mem_cons_of_mem _ member)

/-- A field without timestamps needs no statement. -/
theorem datedMember_filter {schema : Schema} (canonical : schema.IsCanonical) {fields : List Field}
    (names : (fields.map Field.name).Nodup) (key : String) (value : Json.Value) :
    datedMember schema (fields.filter (holds (datedTypes schema))) key value =
      datedMember schema fields key value := by
  cases found : fields.find? fun field => field.name == key with
  | none =>
      have none : ∀ field ∈ fields.filter (holds (datedTypes schema)),
          ¬ (field.name == key) = true :=
        fun field kept => List.find?_eq_none.mp found field (List.mem_of_mem_filter kept)
      rw [datedMember, datedMember, found, List.find?_eq_none.mpr none]
  | some field =>
      have member := List.mem_of_find?_eq_some found
      obtain rfl : field.name = key := by simpa using List.find?_some found
      rw [datedMember, datedMember, found]
      by_cases holding : holds (datedTypes schema) field = true
      · have kept := List.mem_filter.mpr ⟨member, holding⟩
        rw [find?_of_nodup (names.sublist (List.filter_sublist.map Field.name)) kept]
      · have none : ∀ other ∈ fields.filter (holds (datedTypes schema)),
            ¬ (other.name == field.name) = true := by
          intro other kept sameName
          obtain ⟨listed, otherHolds⟩ := List.mem_filter.mp kept
          obtain rfl := List.inj_on_of_nodup_map names listed member (by simpa using sameName)
          exact holding otherHolds
        rw [holds_datedTypes_iff canonical, ← Field.holdsTimestamp_place] at holding
        rw [List.find?_eq_none.mpr none]
        exact (dated_of_not_holdsTimestamp holding value).symm

theorem datedMembers_filter {schema : Schema} (canonical : schema.IsCanonical) {fields : List Field}
    (names : (fields.map Field.name).Nodup) (members : List (String × Json.Value)) :
    datedMembers schema (fields.filter (holds (datedTypes schema))) members =
      datedMembers schema fields members := by
  rw [datedMembers_eq_map, datedMembers_eq_map]
  refine List.map_congr_left fun (key, value) _ => ?_
  simp only [datedMember_filter canonical names]

/-! ## One record -/

/-- The calls of revivers do to values of declared types what they should, as far as the values do
not nest deeper than a bound. -/
def Revives (schema : Schema) (mayLack : Field → Prop) (bound : Nat)
    (call : String → Value → Option Value) : Prop :=
  ∀ (target : TypeRef) (value : Json.Value), schema.HoldsTimestamp target.name →
    Fits schema mayLack (.one (.reference target)) value → depth value ≤ bound →
    call (Convention.typescript.typeName target.name) (ofJson value) =
      some (dated schema (.one (.reference target)) value)

theorem mapM_ofItems {schema : Schema} {place : Place} {call : Value → Option Value}
    {items : List Json.Value}
    (acts : ∀ item ∈ items, call (ofJson item) = some (dated schema place item)) :
    (ofItems items).mapM call = some (datedItems schema place items) := by
  induction items with
  | nil => rfl
  | cons item rest ih =>
      rw [ofItems, List.mapM_cons, acts item List.mem_cons_self,
        ih fun other member => acts other (List.mem_cons_of_mem _ member)]
      rfl

theorem map_date_ofItems {schema : Schema} {mayLack : Field → Prop} {items : List Json.Value}
    (fit : ∀ item ∈ items, Fits schema mayLack (.one (.primitive .timestamp)) item) :
    (ofItems items).map Value.date = datedItems schema (.one (.primitive .timestamp)) items := by
  rw [ofItems_eq_map, datedItems_eq_map, List.map_map]
  refine List.map_congr_left fun item member => ?_
  cases fit item member with
  | primitive isText =>
      obtain ⟨text, rfl⟩ := isText rfl
      rfl

/-- The action of a field that holds timestamps suits the place of its value. -/
theorem place_and_action {schema : Schema} {field : Field}
    (holding : schema.FieldHoldsTimestamp field) :
    (field.place = .one (.primitive .timestamp) ∧ actionOf field = .date) ∨
      (field.place = .many (.primitive .timestamp) ∧ actionOf field = .dates) ∨
      ∃ target : TypeRef, schema.HoldsTimestamp target.name ∧
        ((field.place = .one (.reference target) ∧
            actionOf field = .call (Convention.typescript.typeName target.name)) ∨
          (field.place = .many (.reference target) ∧
            actionOf field = .calls (Convention.typescript.typeName target.name))) := by
  unfold Field.place actionOf
  rcases holding with isTimestamp | ⟨target, isReference, holds⟩
  · rw [isTimestamp]
    by_cases isArray : field.isArray = true <;> simp [isArray]
  · rw [isReference]
    refine .inr (.inr ⟨target, holds, ?_⟩)
    by_cases isArray : field.isArray = true <;> simp [isArray]

/-- The action of a field turns the timestamps of its value into dates. -/
theorem runAction_actionOf {schema : Schema} {mayLack : Field → Prop} {bound : Nat}
    {call : String → Value → Option Value} (revives : Revives schema mayLack bound call)
    {field : Field} (holding : schema.FieldHoldsTimestamp field) {value : Json.Value}
    (fits : Fits schema mayLack field.place value) (shallow : depth value ≤ bound) :
    runAction call (actionOf field) (ofJson value) = some (dated schema field.place value) := by
  rcases place_and_action holding with ⟨place, action⟩ | ⟨place, action⟩ |
    ⟨target, holds, ⟨place, action⟩ | ⟨place, action⟩⟩ <;> rw [place] at fits ⊢ <;> rw [action]
  · cases fits with
    | primitive isText =>
        obtain ⟨text, rfl⟩ := isText rfl
        rfl
  · cases fits with
    | array fit => exact congrArg (some ∘ Value.array) (map_date_ofItems fit)
  · exact revives target value holds fits shallow
  · cases fits with
    | array fit =>
        have calls := mapM_ofItems fun item member =>
          revives target item holds (fit item member) ((depth_lt_of_mem member).le.trans shallow)
        rw [ofJson, runAction, calls]
        rfl

/-- A field may be absent, where nothing stands in its place: with timestamps in it, when no object
inherits a value under its name. -/
def MayLack (schema : Schema) (field : Field) : Prop :=
  schema.FieldHoldsTimestamp field → field.name ∉ inheritedKeys

theorem statements_reviver (dated : List String) (typeName : String) (fields : List Field) :
    (reviver dated typeName fields).statements =
      (fields.filter (TsRevivers.holds dated)).map fun field =>
        Statement.mk field.name (actionOf field) := rfl

/-- The reviver of a record turns its timestamps into dates, given that the calls that it makes do.
-/
theorem revive_succ {schema : Schema} (canonical : schema.IsCanonical) {stack : Nat}
    (revives : Revives schema (MayLack schema) stack (revive (revivers schema) stack))
    {typeName : String} {fields : List Field} (names : (fields.map Field.name).Nodup)
    (found : reviverOf? (revivers schema) typeName =
      some (reviver (datedTypes schema) typeName fields))
    {value : Json.Value} (fits : Fits schema (MayLack schema) (.record fields) value)
    (shallow : depth value ≤ stack + 1) :
    revive (revivers schema) (stack + 1) typeName (ofJson value) =
      some (dated schema (.record fields) value) := by
  cases fits with
  | @record _ members keys lacks fit =>
      have holding : ∀ field ∈ fields.filter (holds (datedTypes schema)),
          field ∈ fields ∧ schema.FieldHoldsTimestamp field := by
        intro field kept
        rw [← holds_datedTypes_iff canonical]
        exact List.mem_filter.mp kept
      have ran : (reviver (datedTypes schema) typeName fields).statements.foldlM
          (runStatement (revive (revivers schema) stack)) (ofMembers members) =
            some (datedMembers schema fields members) := by
        rw [statements_reviver, ← datedMembers_filter canonical names, ← datedMembers_nil schema]
        refine runStatements_append keys (names.sublist (List.filter_sublist.map Field.name))
          (fun field kept absent =>
            lacks field (holding field kept).1 absent (holding field kept).2)
          fun field kept value isValue notNull => ?_
        obtain ⟨member, holds⟩ := holding field kept
        exact runAction_actionOf revives holds (fit field member value isValue notNull)
          (Nat.lt_succ_iff.mp ((depth_lt_of_lookup isValue).trans_le shallow))
      simp only [ofJson, revive, found, ran, Option.map_some, dated, Place.fields]

/-! ## All records -/

/-- The reviver of a type, when no two revivers have one name. -/
theorem reviverOf?_eq {revivers : List Reviver} (distinct : (revivers.map Reviver.typeName).Nodup)
    {reviver : Reviver} (emitted : reviver ∈ revivers) :
    reviverOf? revivers reviver.typeName = some reviver := by
  refine find?_of_nodup ?_ (List.mem_reverse.mpr emitted)
  rwa [List.map_reverse, List.nodup_reverse]

section Accepted

variable {schema : Schema} (canonical : schema.IsCanonical) (accepted : schema.Accepted)
  (distinct : ((revivers schema).map Reviver.typeName).Nodup)
include canonical accepted distinct

omit accepted in
theorem reviverOf?_of_declared {target : TypeRef} {type : TypeDecl}
    (found : schema.lookup? target = some type) (holds : schema.HoldsTimestamp target.name) :
    reviverOf? (revivers schema) (Convention.typescript.typeName target.name) =
      some (reviver (datedTypes schema) (Convention.typescript.typeName target.name)
        type.properties) := by
  have sameName := canonical.name_of_lookup? found
  have declared : (target.name, type) ∈ schema.types := Json.mem_of_lookup_eq_some found
  have kept : type ∈ (schema.types.map (·.2)).filter fun type =>
      (datedTypes schema).contains type.name := by
    refine List.mem_filter.mpr ⟨List.mem_map.mpr ⟨_, declared, rfl⟩, ?_⟩
    simpa [sameName] using (mem_datedTypes_iff canonical).mpr holds
  have emitted : reviver (datedTypes schema) (Convention.typescript.typeName target.name)
      type.properties ∈ revivers schema := by
    rw [← sameName]
    exact List.mem_append_left _ (List.mem_map.mpr ⟨type, kept, rfl⟩)
  have result := reviverOf?_eq distinct emitted
  rwa [typeName_reviver] at result

/-- Calls that nest deep enough turn the timestamps of any value of a declared type into dates. -/
theorem revives_revive (stack : Nat) :
    Revives schema (MayLack schema) stack (revive (revivers schema) stack) := by
  induction stack with
  | zero =>
      intro target value holds fits shallow
      cases fits with
      | reference found fits =>
          cases fits with
          | record => simp [depth] at shallow
  | succ stack ih =>
      intro target value holds fits shallow
      cases fits with
      | @reference _ type _ found fits =>
          have declared : (target.name, type) ∈ schema.types := Json.mem_of_lookup_eq_some found
          rw [revive_succ canonical ih (accepted.property_names_nodup declared)
            (reviverOf?_of_declared canonical distinct found holds) fits shallow]
          cases fits with
          | record => rw [dated, dated, Place.fields, Place.fields, found, Option.elim_some]

end Accepted

/-! ## Samples -/

/-- A method that gets the visits of a pet. -/
def clinic : Schema :=
  { name := "clinic"
    version := "1"
    methods := [
      { name := "get"
        outputs := [
          { name := "visits", type := .primitive .array,
            items := some (.reference (.toType "visit")) }] }]
    types := [("visit", {
      name := "visit"
      properties := [
        { name := "at", type := .primitive .timestamp },
        { name := "note", type := .primitive .string }] })] }

/-- A visit, with a note that reads like a timestamp. -/
def visits : Json.Value :=
  .object [("visits", .array [
    .object [("at", .string "2024-05-02"), ("note", .string "2024-05-03")]])]

/-- An output that every object inherits a value under the name of. -/
def heirloom : Schema :=
  { name := "k"
    version := ""
    methods := [
      { name := "get", outputs := [{ name := "constructor", type := .primitive .timestamp }] }] }

def heirloomText : String :=
  "\x7b\"name\":\"k\",\"version\":\"\",\"description\":\"\",\"groups\":[],\"types\":\x7b\x7d," ++
    "\"methods\":[\x7b\"name\":\"get\",\"outputs\":[" ++
    "\x7b\"name\":\"constructor\",\"type\":\"timestamp\"\x7d]\x7d]\x7d"

/-- A type whose name in clients is that of the outputs of a method. -/
def namesake : Schema :=
  { name := "k"
    version := ""
    methods := [
      { name := "get", outputs := [{ name := "last", type := .reference (.toType "get_output") }] }]
    types := [("get_output", {
      name := "get_output"
      properties := [{ name := "at", type := .primitive .timestamp }] })] }

def namesakeText : String :=
  "\x7b\"name\":\"k\",\"version\":\"\",\"description\":\"\",\"groups\":[]," ++
    "\"types\":\x7b\"get_output\":\x7b\"properties\":[" ++
    "\x7b\"name\":\"at\",\"type\":\"timestamp\"\x7d]\x7d\x7d," ++
    "\"methods\":[\x7b\"name\":\"get\",\"outputs\":[" ++
    "\x7b\"name\":\"last\",\"type\":\x7b\"$ref\":\"#/types/get_output\"\x7d\x7d]\x7d]\x7d"

/-- A response that conforms to the outputs of a method, any field of which may be absent; the
schema is accepted and its types have distinct names in clients. -/
structure Deliverable (schema : Schema) (method : Method) (value : Json.Value) : Prop where
  accepted : schema.Accepted
  named : (schema.types.map fun entry => Convention.typescript.typeName entry.2.name).Nodup
  declared : method ∈ schema.methods
  outputs : method.hasOutputs = true
  fits : Fits schema (fun _ => True) (.record method.outputs) value

/-- When calls may nest deep enough, the caller of a method gets the response with its timestamps as
dates. -/
def Delivers (schema : Schema) (method : Method) (value : Json.Value) : Prop :=
  ∃ enough, ∀ stack, enough ≤ stack →
    answer (revivers schema) stack value (Call.ofMethod (datedTypes schema) method).response =
      some (dated schema (.record method.outputs) value)

end Script

end RpcSchema
