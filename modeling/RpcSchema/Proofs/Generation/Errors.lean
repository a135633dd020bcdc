import RpcSchema.Proofs.Schema.Owners
import RpcSchema.Target

/-!
# The first error of a generator

A generator goes through a schema and stops at its first error. What it answers is followed here by
that error alone: the error of two steps is that of the first step, else that of the second; the
error of a list is that of its first failing item. For fields whose references resolve and whose
arrays declare their items, the only error left is that of a default of the wrong kind.
-/

namespace RpcSchema

/-! ## The error of an answer -/

section Answers

variable {ε α β : Type}

/-- The error of an answer, if it is one. -/
def errorOf : Except ε α → Option ε
  | .error error => some error
  | .ok _ => none

@[simp] theorem errorOf_error (error : ε) : errorOf (.error error : Except ε α) = some error := rfl

@[simp] theorem errorOf_ok (value : α) : errorOf (.ok value : Except ε α) = none := rfl

theorem errorOf_eq_none_iff {answer : Except ε α} :
    errorOf answer = none ↔ ∃ value, answer = .ok value := by
  cases answer <;> simp

/-- Where the second step fails in the same way for every result of the first, the first error of
both is that of the first step, else that of the second. -/
theorem errorOf_bind {answer : Except ε α} {next : α → Except ε β} (fault : Option ε)
    (second : ∀ value, answer = .ok value → errorOf (next value) = fault) :
    errorOf (answer >>= next) = (errorOf answer).or fault := by
  cases answer with
  | error error => rfl
  | ok value => exact second value rfl

/-- A second step that cannot fail adds no error. -/
theorem errorOf_bind_of_ok {answer : Except ε α} {next : α → Except ε β}
    (second : ∀ value, errorOf (next value) = none) :
    errorOf (answer >>= next) = errorOf answer := by
  rw [errorOf_bind none fun value _ => second value, Option.or_none]

theorem errorOf_map (change : α → β) (answer : Except ε α) :
    errorOf (answer.map change) = errorOf answer := by
  cases answer with
  | error error => rfl
  | ok value => rfl

/-- A list of steps fails with the error of the first item that fails. -/
theorem errorOf_mapM {step : α → Except ε β} {items : List α} {fault : α → Option ε}
    (each : ∀ item ∈ items, errorOf (step item) = fault item) :
    errorOf (items.mapM step) = items.findSome? fault := by
  induction items with
  | nil => rfl
  | cons item rest ih =>
      have restEach : ∀ item ∈ rest, errorOf (step item) = fault item := fun item member =>
        each item (List.mem_cons_of_mem _ member)
      -- The error of the rest counts only where the first item has none.
      rw [List.mapM_cons, List.findSome?_cons, errorOf_bind (errorOf (rest.mapM step)),
        each item List.mem_cons_self, ih restEach]
      · cases fault item <;> rfl
      · intro value _
        rw [errorOf_bind_of_ok fun _ => rfl]

theorem errorOf_mapM_eq_none {step : α → Except ε β} {items : List α}
    (each : ∀ item ∈ items, errorOf (step item) = none) : errorOf (items.mapM step) = none := by
  rw [errorOf_mapM each, List.findSome?_eq_none_iff]
  exact fun _ _ => rfl

/-- Where a list of steps succeeds, each of them does. -/
theorem exists_of_mapM_eq_ok {step : α → Except ε β} {items : List α} {results : List β}
    (done : items.mapM step = .ok results) : ∀ item ∈ items, ∃ result, step item = .ok result := by
  have noFault : items.findSome? (fun item => errorOf (step item)) = none := by
    rw [← errorOf_mapM fun _ _ => rfl, done]
    rfl
  exact fun item member =>
    errorOf_eq_none_iff.mp (List.findSome?_eq_none_iff.mp noFault item member)

end Answers

/-! ## Fields -/

/-- A field whose references resolve, and that declares its items when it is an array. -/
structure Field.ResolvedIn (schema : Schema) (field : Field) : Prop where
  resolves : ∀ target ∈ field.references, ∃ type, schema.resolve target = .ok type
  declaresItems : field.isArray → field.items ≠ none

/-- Whether a field has a default that is no value of its kind. Only texts, integers and floats are
judged: an integer has to fit a signed word, a float may be any number. -/
def Field.isMisdefaulted (field : Field) : Bool :=
  match field.type, field.defaultValue with
  | .primitive .string, some (.string _) => false
  | .primitive .string, some _ => true
  | .primitive .integer, some (.number (.integer value)) => !Json.isSignedWord value
  | .primitive .integer, some _ => true
  | .primitive .float, some (.number _) => false
  | .primitive .float, some _ => true
  | _, _ => false

/-- The name of a field's kind; references have none. -/
def Field.kindName (field : Field) : String := (field.type.kind?.map Kind.name).getD ""

/-- The error that a default of another kind gives. -/
def Field.defaultError (field : Field) : GenerateError :=
  .invalidDefault field.name field.kindName

def Field.defaultError? (field : Field) : Option GenerateError :=
  if field.isMisdefaulted then some field.defaultError else none

theorem errorOf_defaultCheck (field : Field) : errorOf field.defaultCheck = field.defaultError? := by
  obtain ⟨name, description, required, readonly, value, type, items, enumValues⟩ := field
  cases type with
  | reference target => cases value <;> rfl
  | primitive kind =>
      cases value with
      | none => cases kind <;> rfl
      | some value =>
          -- The other kinds take any value, and only an integer has a range to fit.
          cases kind with
          | string => cases value <;> rfl
          | float => cases value <;> rfl
          | integer =>
              cases value with
              | number number =>
                  cases number with
                  | integer value =>
                      cases fits : Json.isSignedWord value <;>
                        simp [Field.defaultCheck, Field.defaultError?, Field.isMisdefaulted, fits,
                          Field.defaultError, Field.kindName, FieldType.kind?]
                  | floating value => rfl
              | _ => rfl
          | _ => rfl

variable {schema : Schema} {field : Field}

theorem Field.ResolvedIn.own_reference (resolved : field.ResolvedIn schema) {target : TypeRef}
    (isReference : field.type = .reference target) : ∃ type, schema.resolve target = .ok type :=
  resolved.resolves target (by simp [Field.references, isReference, FieldType.reference?])

theorem Field.ResolvedIn.item_reference (resolved : field.ResolvedIn schema) {target : TypeRef}
    (isReference : field.items = some (.reference target)) :
    ∃ type, schema.resolve target = .ok type :=
  resolved.resolves target (by simp [Field.references, isReference, FieldType.reference?])

theorem Field.ResolvedIn.errorOf_element (resolved : field.ResolvedIn schema) :
    errorOf (schema.element field) = none := by
  unfold Schema.element
  split
  · rfl
  · split
    · next target isReference =>
      obtain ⟨type, found⟩ := resolved.item_reference isReference
      rw [found]
      rfl
    · rfl

theorem errorOf_elementType {type : FieldType}
    (resolves : ∀ target, type = .reference target → ∃ decl, schema.resolve target = .ok decl) :
    errorOf (schema.elementType type) = none := by
  cases type with
  | primitive kind => rfl
  | reference target =>
      obtain ⟨decl, found⟩ := resolves target rfl
      rw [Schema.elementType, found]
      rfl

theorem Field.ResolvedIn.errorOf_valueType (resolved : field.ResolvedIn schema) :
    errorOf (schema.valueType field) = none := by
  unfold Schema.valueType
  split
  · next isArray =>
    split
    · next item declared =>
      rw [errorOf_map]
      exact errorOf_elementType fun target isReference =>
        resolved.item_reference (isReference ▸ declared)
    · next missing =>
      exact absurd missing (resolved.declaresItems (by simp [Field.isArray, isArray]))
  · rw [errorOf_map]
    exact errorOf_elementType fun target isReference => resolved.own_reference isReference

theorem Field.ResolvedIn.errorOf_fieldChecks (resolved : field.ResolvedIn schema) :
    errorOf (schema.fieldChecks field) = field.defaultError? := by
  rw [Schema.fieldChecks, errorOf_bind none, errorOf_defaultCheck, Option.or_none]
  intro value _
  rw [errorOf_bind_of_ok fun _ => rfl, resolved.errorOf_element]

/-- The checks of some fields fail at the first default of another kind. -/
theorem errorOf_checks {fields : List Field}
    (resolved : ∀ field ∈ fields, field.ResolvedIn schema) :
    errorOf (schema.checks fields) = fields.findSome? Field.defaultError? := by
  induction fields with
  | nil => rfl
  | cons field rest ih =>
      have restResolved : ∀ field ∈ rest, field.ResolvedIn schema := fun field member =>
        resolved field (List.mem_cons_of_mem _ member)
      rw [Schema.checks, errorOf_bind (rest.findSome? Field.defaultError?),
        (resolved field List.mem_cons_self).errorOf_fieldChecks, List.findSome?_cons]
      · cases field.defaultError? <;> rfl
      · intro first _
        rw [errorOf_bind_of_ok fun _ => rfl, ih restResolved]

/-! ## Types of a target language -/

/-- A mapping that has a type for every kind. -/
def TypeMapping.Total (mapping : TypeMapping) : Prop :=
  ∀ kind, ∃ text, mapping.primitive kind = some text

namespace TypeMapping

theorem go_total : go.Total := by
  intro kind
  cases kind <;> exact ⟨_, rfl⟩

theorem typescript_total : typescript.Total := by
  intro kind
  cases kind <;> exact ⟨_, rfl⟩

theorem rust_total : rust.Total := by
  intro kind
  cases kind <;> exact ⟨_, rfl⟩

theorem csharp_total : csharp.Total := by
  intro kind
  cases kind <;> exact ⟨_, rfl⟩

variable {mapping : TypeMapping}

theorem Total.errorOf_element (total : mapping.Total) (position : TypePosition)
    (type : ElementType) : errorOf (mapping.element position type) = none := by
  cases type with
  | primitive kind =>
      obtain ⟨text, known⟩ := total kind
      simp [element, known]
  | declared name => rfl

theorem Total.errorOf_value (total : mapping.Total) (type : ValueType) :
    errorOf (mapping.value type) = none := by
  cases type with
  | one type => exact total.errorOf_element .field type
  | many element =>
      rw [value, errorOf_map]
      exact total.errorOf_element .element element

theorem Total.errorOf_field (total : mapping.Total) (resolved : field.ResolvedIn schema) :
    errorOf (mapping.field schema field) = none := by
  rw [TypeMapping.field, errorOf_bind_of_ok fun type => total.errorOf_value type,
    resolved.errorOf_valueType]

end TypeMapping

/-! ## Record types -/

section Records

variable {fields : List Field} (resolved : ∀ field ∈ fields, field.ResolvedIn schema)
include resolved

theorem GoTypes.errorOf_structFields :
    errorOf (fields.mapM (GoTypes.structField schema)) = none := by
  refine errorOf_mapM_eq_none fun field member => ?_
  rw [GoTypes.structField, errorOf_bind_of_ok fun _ => rfl,
    TypeMapping.go_total.errorOf_field (resolved field member)]

theorem RustTypes.errorOf_structFields :
    errorOf (fields.mapM (RustTypes.structField schema)) = none := by
  refine errorOf_mapM_eq_none fun field member => ?_
  rw [RustTypes.structField, errorOf_bind none,
    (resolved field member).errorOf_valueType, Option.or_none]
  intro type _
  rw [errorOf_bind_of_ok fun _ => rfl, TypeMapping.rust_total.errorOf_value]

theorem TsTypes.errorOf_interfaceFields :
    errorOf (fields.mapM (TsTypes.interfaceField schema)) = none := by
  refine errorOf_mapM_eq_none fun field member => ?_
  rw [TsTypes.interfaceField, errorOf_bind_of_ok fun _ => rfl,
    TypeMapping.typescript_total.errorOf_field (resolved field member)]

theorem CsClient.errorOf_properties :
    errorOf (fields.mapM (CsClient.property schema)) = none := by
  refine errorOf_mapM_eq_none fun field member => ?_
  rw [CsClient.property, errorOf_bind_of_ok fun _ => rfl,
    TypeMapping.csharp_total.errorOf_field (resolved field member)]

end Records

/-- The fields that generated code reads from requests: the properties of the types, then the
inputs of the methods. -/
def Schema.readFields (schema : Schema) : List Field :=
  (schema.types.flatMap fun entry => entry.2.properties) ++ schema.methods.flatMap Method.inputs

/-- The error of a record type's defaults, when they are put in. -/
def Model.defaultError? (validate : Bool) (model : Model) : Option GenerateError :=
  if validate && model.isChecked then model.fields.findSome? Field.defaultError? else none

section Models

variable {model : Model} (resolved : ∀ field ∈ model.fields, field.ResolvedIn schema)
include resolved

theorem GoTypes.errorOf_declare (config : GoTypes) :
    errorOf (config.declare schema model) = model.defaultError? config.validate := by
  rw [GoTypes.declare, errorOf_bind (model.defaultError? config.validate),
    GoTypes.errorOf_structFields resolved, Option.none_or]
  intro fields _
  unfold Model.defaultError?
  split
  · rw [errorOf_bind_of_ok fun _ => rfl, errorOf_checks resolved]
  · rfl

theorem RustTypes.errorOf_declare (config : RustTypes) :
    errorOf (config.declare schema model) = model.defaultError? config.validate := by
  rw [RustTypes.declare, errorOf_bind (model.defaultError? config.validate),
    RustTypes.errorOf_structFields resolved, Option.none_or]
  intro fields _
  unfold Model.defaultError?
  split
  · rw [errorOf_bind_of_ok fun _ => rfl, errorOf_checks resolved]
  · rfl

theorem TsTypes.errorOf_declare : errorOf (TsTypes.declare schema model) = none := by
  rw [TsTypes.declare, errorOf_bind_of_ok fun _ => rfl,
    TsTypes.errorOf_interfaceFields resolved]

theorem CsClient.errorOf_declare : errorOf (CsClient.declare schema model) = none := by
  rw [CsClient.declare, errorOf_bind_of_ok fun _ => rfl,
    CsClient.errorOf_properties resolved]

end Models

theorem Method.findSome?_models (method : Method) (validate : Bool) :
    method.models.findSome? (Model.defaultError? validate) =
      if validate then method.inputs.findSome? Field.defaultError? else none := by
  have ofInput : (Model.input method).defaultError? validate =
      if validate then method.inputs.findSome? Field.defaultError? else none := by
    cases validate <;> rfl
  -- Outputs are written and never read: their defaults are not put in.
  have ofOutput : (Model.output method).defaultError? validate = none := by
    cases validate <;> rfl
  have outputs : (if method.hasOutputs then [Model.output method] else []).findSome?
      (Model.defaultError? validate) = none := by
    split <;> simp [ofOutput]
  rw [Method.models, List.findSome?_append, outputs, Option.or_none]
  split
  · rw [List.findSome?_singleton, ofInput]
  · next noInputs =>
    have empty : method.inputs = [] := by simpa [Method.hasInputs] using noInputs
    simp [empty]

theorem findSome?_flatMap {α β γ : Type} (items : List α) (parts : α → List β)
    (fault : β → Option γ) :
    (items.flatMap parts).findSome? fault =
      items.findSome? fun item => (parts item).findSome? fault := by
  induction items with
  | nil => rfl
  | cons item rest ih =>
      rw [List.flatMap_cons, List.findSome?_append, ih, List.findSome?_cons]
      cases (parts item).findSome? fault <;> rfl

/-- Over all record types, the defaults that are put in are those of the fields that are read, in
their order. -/
theorem Schema.findSome?_models (schema : Schema) (validate : Bool) :
    schema.models.findSome? (Model.defaultError? validate) =
      if validate then schema.readFields.findSome? Field.defaultError? else none := by
  rw [Schema.models, List.findSome?_append, List.findSome?_map, findSome?_flatMap]
  simp only [Method.findSome?_models]
  cases validate with
  | false => simp [Model.defaultError?, Function.comp_def]
  | true =>
      rw [if_pos rfl, Schema.readFields, List.findSome?_append, findSome?_flatMap,
        findSome?_flatMap]
      rfl

end RpcSchema
