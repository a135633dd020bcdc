import RpcSchema.Proofs.Code.Imports
import RpcSchema.Proofs.Dates.Search
import RpcSchema.Target.TsClient

/-!
# Closed clients

A client has three loops over a schema: one emits the revivers, one the calls, and one collects the
names to import. They agree on every schema in canonical form. What a reviver or a method of the
client calls is there, a method revives its output when that holds timestamps, and the import has
the names that the functions have in their signatures and annotations, and no others.
-/

namespace RpcSchema

open Naming

/-- Whether a file declares a function. -/
def TsCode.File.Declares (file : TsCode.File) (name : String) : Prop :=
  ∃ func, TsCode.Decl.func func ∈ file.decls ∧ func.name = name

namespace TsRevivers

/-- The type whose reviver an action calls. -/
def Action.callee? : Action → Option String
  | .date => none
  | .dates => none
  | .call type => some type
  | .calls type => some type

theorem callee?_actionOf (field : Field) :
    (actionOf field).callee? =
      match field.elementType with
      | .primitive _ => none
      | .reference target => some (Convention.typescript.typeName target.name) := by
  unfold actionOf
  cases field.elementType <;> cases field.isArray <;> rfl

@[simp]
theorem typeName_reviver (dated : List String) (typeName : String) (fields : List Field) :
    (reviver dated typeName fields).typeName = typeName := rfl

/-- A statement of a reviver that calls another one goes over a field of a type that holds
timestamps. -/
theorem exists_of_callee {dated : List String} {typeName : String} {fields : List Field}
    {statement : Statement} (emitted : statement ∈ (reviver dated typeName fields).statements)
    {type : String} (called : statement.action.callee? = some type) :
    ∃ name ∈ dated, Convention.typescript.typeName name = type := by
  obtain ⟨field, kept, rfl⟩ := List.mem_map.mp emitted
  have holding := (List.mem_filter.mp kept).2
  rw [callee?_actionOf] at called
  rcases (holds_iff dated field).mp holding with timestamp | ⟨target, isReference, known⟩
  · simp [timestamp] at called
  · rw [isReference] at called
    exact ⟨target.name, known, Option.some.inj called⟩

end TsRevivers

theorem Schema.HoldsTimestamp.declared {schema : Schema} {name : String}
    (holds : schema.HoldsTimestamp name) : ∃ type, (name, type) ∈ schema.types := by
  obtain ⟨last, chain, ends⟩ := holds
  rcases chain.cases_head with rfl | ⟨next, refers, _⟩
  · exact ⟨ends.choose, ends.choose_spec.1⟩
  · exact ⟨refers.choose, refers.choose_spec.1⟩

namespace TsClient

open TsRevivers

/-- The functions that the client of a schema calls to turn timestamps into dates, from another such
function or from a method. -/
inductive Calls (schema : Schema) : String → Prop
  | reviver {reviver : Reviver} {statement : Statement} {type : String} :
      reviver ∈ revivers schema → statement ∈ reviver.statements →
      statement.action.callee? = some type → Calls schema (functionName type)
  | method {call : Call} {type : String} :
      call ∈ calls schema → call.response = .revived type → Calls schema (functionName type)

/-- The types of a schema that the functions of its client have in their signatures, or in the
annotation of what a response is parsed as. -/
inductive Uses (schema : Schema) : String → Prop
  | value {reviver : Reviver} {param : TsCode.Param} {type : String} :
      reviver ∈ revivers schema → param ∈ reviver.func.params → param.type = type →
      Uses schema type
  | params {call : Call} {param : TsCode.Param} {type : String} :
      call ∈ calls schema → param ∈ call.func.params → param.type = type → Uses schema type
  | parsed {call : Call} {type : String} :
      call ∈ calls schema → call.response = .parsed type → Uses schema type
  | revived {call : Call} {type : String} :
      call ∈ calls schema → call.response = .revived type → Uses schema type

theorem hasOutputs_of_isDated {dated : List String} {method : Method}
    (holding : isDated dated method = true) : method.hasOutputs = true := by
  obtain ⟨field, member, _⟩ := List.any_eq_true.mp holding
  simp [Method.hasOutputs, List.ne_nil_of_mem member]

theorem response_eq_revived_iff {dated : List String} {method : Method} {type : String} :
    (Call.ofMethod dated method).response = .revived type ↔
      isDated dated method = true ∧ Convention.typescript.outputType method.name = type := by
  simp only [Call.ofMethod]
  cases holding : isDated dated method with
  | false => cases method.hasOutputs <;> simp
  | true => simp [hasOutputs_of_isDated holding]

theorem response_eq_parsed_iff {dated : List String} {method : Method} {type : String} :
    (Call.ofMethod dated method).response = .parsed type ↔
      (method.hasOutputs = true ∧ isDated dated method = false) ∧
        Convention.typescript.outputType method.name = type := by
  simp only [Call.ofMethod]
  cases method.hasOutputs <;> cases isDated dated method <;> simp

theorem mem_params_iff {dated : List String} {method : Method} {param : TsCode.Param} :
    param ∈ (Call.ofMethod dated method).func.params ↔
      method.hasInputs = true ∧
        param = { name := "params", type := Convention.typescript.inputType method.name } := by
  simp only [Call.func, Call.ofMethod]
  cases method.hasInputs <;> simp

theorem mem_calls_iff {schema : Schema} {call : Call} :
    call ∈ calls schema ↔
      ∃ method ∈ schema.methods, Call.ofMethod (datedTypes schema) method = call :=
  List.mem_map

section Canonical

variable {schema : Schema} (canonical : schema.IsCanonical)
include canonical

/-- The types that have a reviver: the types that hold timestamps, and the outputs that do. -/
theorem exists_mem_revivers_iff {type : String} :
    (∃ reviver ∈ revivers schema, reviver.typeName = type) ↔
      (∃ name ∈ datedTypes schema, Convention.typescript.typeName name = type) ∨
        ∃ method ∈ schema.methods, isDated (datedTypes schema) method = true ∧
          Convention.typescript.outputType method.name = type := by
  simp only [revivers, List.mem_append, or_and_right, exists_or]
  refine or_congr ⟨?_, ?_⟩ ⟨?_, ?_⟩
  · rintro ⟨_, emitted, rfl⟩
    obtain ⟨declared, kept, rfl⟩ := List.mem_map.mp emitted
    refine ⟨declared.name, ?_, (typeName_reviver _ _ _).symm⟩
    simpa using (List.mem_filter.mp kept).2
  · rintro ⟨name, dated, rfl⟩
    obtain ⟨declared, isEntry⟩ := ((mem_datedTypes_iff canonical).mp dated).declared
    have sameName : declared.name = name := canonical.named _ isEntry
    have kept : declared ∈ (schema.types.map (·.2)).filter fun type =>
        (datedTypes schema).contains type.name :=
      List.mem_filter.mpr ⟨List.mem_map.mpr ⟨_, isEntry, rfl⟩, by simpa [sameName] using dated⟩
    refine ⟨_, List.mem_map.mpr ⟨declared, kept, rfl⟩, ?_⟩
    rw [typeName_reviver, sameName]
  · rintro ⟨_, emitted, rfl⟩
    obtain ⟨method, kept, rfl⟩ := List.mem_map.mp emitted
    obtain ⟨declared, holding⟩ := List.mem_filter.mp kept
    exact ⟨method, declared, holding, (typeName_reviver _ _ _).symm⟩
  · rintro ⟨method, declared, holding, rfl⟩
    exact ⟨_, List.mem_map.mpr ⟨method, List.mem_filter.mpr ⟨declared, holding⟩, rfl⟩,
      typeName_reviver _ _ _⟩

omit canonical in
/-- The function of every type that has a reviver is in the file. -/
theorem declares_of_mem_revivers (config : TsClient) {reviver : Reviver}
    (emitted : reviver ∈ revivers schema) :
    (config.file schema).Declares (functionName reviver.typeName) := by
  refine ⟨reviver.func, ?_, rfl⟩
  simp only [file, List.mem_append, List.mem_map]
  exact .inl (.inr ⟨reviver, emitted, rfl⟩)

theorem declares_of_calls (config : TsClient) {name : String} (called : Calls schema name) :
    (config.file schema).Declares name := by
  obtain ⟨reviver, emitted, isNamed⟩ : ∃ reviver ∈ revivers schema,
      functionName reviver.typeName = name := by
    cases called with
    | @reviver caller statement type emitted within called =>
        have fromDated : ∃ name ∈ datedTypes schema,
            Convention.typescript.typeName name = type := by
          rcases List.mem_append.mp emitted with ofType | ofMethod
          · obtain ⟨_, _, rfl⟩ := List.mem_map.mp ofType
            exact exists_of_callee within called
          · obtain ⟨_, _, rfl⟩ := List.mem_map.mp ofMethod
            exact exists_of_callee within called
        obtain ⟨reviver, emitted, rfl⟩ := (exists_mem_revivers_iff canonical).mpr (.inl fromDated)
        exact ⟨reviver, emitted, rfl⟩
    | @method call type isCall revives =>
        obtain ⟨method, declared, rfl⟩ := mem_calls_iff.mp isCall
        obtain ⟨holding, rfl⟩ := response_eq_revived_iff.mp revives
        obtain ⟨reviver, emitted, sameType⟩ :=
          (exists_mem_revivers_iff canonical).mpr (.inr ⟨method, declared, holding, rfl⟩)
        exact ⟨reviver, emitted, congrArg functionName sameType⟩
  rw [← isNamed]
  exact declares_of_mem_revivers config emitted

theorem isDated_datedTypes_iff (method : Method) :
    isDated (datedTypes schema) method = true ↔
      ∃ field ∈ method.outputs, schema.FieldHoldsTimestamp field := by
  simp only [isDated, List.any_eq_true, holds_datedTypes_iff canonical]

omit canonical in
theorem mem_usedTypes_iff {type : String} :
    type ∈ usedTypes schema ↔
      (∃ method ∈ schema.methods, method.hasInputs = true ∧
          Convention.typescript.inputType method.name = type) ∨
        (∃ method ∈ schema.methods, method.hasOutputs = true ∧
          Convention.typescript.outputType method.name = type) ∨
        ∃ name ∈ datedTypes schema, Convention.typescript.typeName name = type := by
  simp only [usedTypes, Code.mem_insertNames, List.mem_append, List.mem_flatMap, List.mem_map,
    List.not_mem_nil, or_false, and_or_left, exists_or, or_assoc, List.mem_ite_nil_right,
    List.mem_singleton, eq_comm]

theorem mem_usedTypes_iff_uses {type : String} : type ∈ usedTypes schema ↔ Uses schema type := by
  rw [mem_usedTypes_iff]
  constructor
  · rintro (⟨method, declared, inputs, rfl⟩ | ⟨method, declared, outputs, rfl⟩ | dated)
    · exact .params (mem_calls_iff.mpr ⟨method, declared, rfl⟩) (mem_params_iff.mpr ⟨inputs, rfl⟩)
        rfl
    · have isCall := mem_calls_iff.mpr ⟨method, declared, rfl⟩
      cases holding : isDated (datedTypes schema) method with
      | false => exact .parsed isCall (response_eq_parsed_iff.mpr ⟨⟨outputs, holding⟩, rfl⟩)
      | true => exact .revived isCall (response_eq_revived_iff.mpr ⟨holding, rfl⟩)
    · obtain ⟨reviver, emitted, rfl⟩ := (exists_mem_revivers_iff canonical).mpr (.inl dated)
      exact .value emitted (List.mem_singleton_self _) rfl
  · intro used
    cases used with
    | value emitted within named =>
        obtain rfl := List.mem_singleton.mp within
        rcases (exists_mem_revivers_iff canonical).mp ⟨_, emitted, named⟩ with
          dated | ⟨method, declared, holding, named⟩
        · exact .inr (.inr dated)
        · exact .inr (.inl ⟨method, declared, hasOutputs_of_isDated holding, named⟩)
    | params isCall within named =>
        obtain ⟨method, declared, rfl⟩ := mem_calls_iff.mp isCall
        obtain ⟨inputs, rfl⟩ := mem_params_iff.mp within
        exact .inl ⟨method, declared, inputs, named⟩
    | parsed isCall parses =>
        obtain ⟨method, declared, rfl⟩ := mem_calls_iff.mp isCall
        obtain ⟨⟨outputs, _⟩, named⟩ := response_eq_parsed_iff.mp parses
        exact .inr (.inl ⟨method, declared, outputs, named⟩)
    | revived isCall revives =>
        obtain ⟨method, declared, rfl⟩ := mem_calls_iff.mp isCall
        obtain ⟨holding, named⟩ := response_eq_revived_iff.mp revives
        exact .inr (.inl ⟨method, declared, hasOutputs_of_isDated holding, named⟩)

end Canonical

/-- The types of `knot`, a method that gets one of them, and a method without inputs or outputs. -/
def kennel : Schema :=
  { TsRevivers.knot with
    methods := [
      { name := "get_pet"
        inputs := [{ name := "id", type := .primitive .string }]
        outputs := [{ name := "pet", type := .reference (.toType "pet") }] },
      { name := "ping" }] }

end TsClient

end RpcSchema
