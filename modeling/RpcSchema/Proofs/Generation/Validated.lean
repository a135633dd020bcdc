import RpcSchema.Proofs.Generation.Errors
import RpcSchema.Proofs.Validation.ErrorCount

/-!
# Generating from a validated schema

The lints look at the same fields as the generators: once the validation phase has found no error,
every reference of every field resolves and every array declares its items. From there on no backend
can fail, but for the two that put defaults in: they fail exactly when a default that is put in has
another kind than its field, and then with the first such default.
-/

namespace RpcSchema

/-! ## What validation establishes -/

/-- The default validation phase, under its own policy for groups or under a chosen one. -/
def ValidatePhase.IsDefault (phase : ValidatePhase) : Prop :=
  phase = .standard ∨ ∃ policy, phase = ValidatePhase.standard.groupPolicy policy

/-- A choice of policy replaces the lint on groups and no other. -/
theorem ValidatePhase.IsDefault.mem_lints {phase : ValidatePhase} (usual : phase.IsDefault)
    (lint : Lint) (standard : lint ∈ Lint.standard) (other : lint.name ≠ Lint.unknownGroupName) :
    lint ∈ phase.lints := by
  rcases usual with rfl | ⟨policy, rfl⟩
  · exact standard
  · -- The chosen policy's lint is put behind the lints that are kept.
    have kept : lint ∈ Lint.standard.filter fun lint => lint.name != Lint.unknownGroupName :=
      List.mem_filter.mpr ⟨standard, by simpa using other⟩
    exact List.mem_append_left _ kept

/-- A phase without errors has none from any of its lints. -/
theorem ValidatePhase.errorCount_check_eq_zero {phase : ValidatePhase} {schema : Schema}
    (clean : (phase.toPhase.run (.ofSchema schema)).1.errors = []) {lint : Lint}
    (member : lint ∈ phase.lints) : errorCount (lint.check schema) = 0 := by
  have counted := phase.length_errors_run (.ofSchema schema)
  rw [clean, List.length_nil] at counted
  have noError : errorCount (phase.lints.flatMap fun lint => lint.check schema) = 0 := by
    -- The context of a schema starts without remarks.
    change 0 = _ + errorCount (phase.lints.flatMap fun lint => lint.check schema) at counted
    omega
  rw [errorCount, List.countP_eq_zero] at noError ⊢
  intro diagnostic recorded
  exact noError diagnostic (List.mem_flatMap.mpr ⟨lint, member, recorded⟩)

namespace Schema

variable {schema : Schema}

theorem resolve_eq_ok_iff {target : TypeRef} {decl : TypeDecl} :
    schema.resolve target = .ok decl ↔ schema.lookup? target = some decl := by
  rw [resolve]
  cases schema.lookup? target <;> simp

theorem resolve_ok_of_mem_typeKeys {target : TypeRef} (declared : target.name ∈ schema.typeKeys) :
    ∃ type, schema.resolve target = .ok type := by
  have found : (schema.lookup? target).isNone ≠ true := by
    rw [Ne, schema.lookup?_isNone_iff target]
    exact fun absent => absent declared
  obtain ⟨type, isSome⟩ := Option.ne_none_iff_exists'.mp (by simpa using found)
  exact ⟨type, resolve_eq_ok_iff.mpr isSome⟩

/-- Two lints without errors are enough for every field to be resolved. -/
theorem resolvedIn_of_errorCount
    (references : errorCount (Lint.danglingReference.check schema) = 0)
    (shapes : errorCount (Lint.fieldShape.check schema) = 0) :
    ∀ field ∈ schema.allFields, field.ResolvedIn schema := by
  rw [errorCount_danglingReference, danglingCount, List.countP_eq_zero] at references
  rw [errorCount_fieldShape, Nat.add_eq_zero_iff, List.countP_eq_zero, List.countP_eq_zero]
    at shapes
  intro field member
  refine ⟨fun target mentioned => resolve_ok_of_mem_typeKeys ?_, fun isArray missing => ?_⟩
  · have declared := references target (List.mem_flatMap.mpr ⟨field, member, mentioned⟩)
    simpa using declared
  · have complete := shapes.2 field member
    simp only [Field.isArray, beq_iff_eq] at isArray
    simp [Field.lacksItems, isArray, missing] at complete

theorem danglingReferences_eq_nil
    (references : errorCount (Lint.danglingReference.check schema) = 0) :
    schema.danglingReferences = [] := by
  have counted : errorCount (Lint.danglingReference.check schema) =
      schema.danglingReferences.length := errorCount_map_error _ _ _
  exact List.length_eq_zero_iff.mp (counted ▸ references)

theorem mem_allFields_of_mem_models {model : Model} (listed : model ∈ schema.models)
    {field : Field} (member : field ∈ model.fields) : field ∈ schema.allFields := by
  rcases List.mem_append.mp listed with ofType | ofMethod
  · obtain ⟨entry, declared, rfl⟩ := List.mem_map.mp ofType
    exact property_mem_allFields declared member
  · obtain ⟨method, declared, ofThis⟩ := List.mem_flatMap.mp ofMethod
    rcases List.mem_append.mp ofThis with isInput | isOutput
    · split at isInput
      · obtain rfl := List.mem_singleton.mp isInput
        exact method_field_mem_allFields declared (List.mem_append_left _ member)
      · exact absurd isInput List.not_mem_nil
    · split at isOutput
      · obtain rfl := List.mem_singleton.mp isOutput
        exact method_field_mem_allFields declared (List.mem_append_right _ member)
      · exact absurd isOutput List.not_mem_nil

end Schema

/-! ## Errors of the backends -/

/-- What comes of running a backend that fails with the given error, or not at all. -/
def Outcome.Answers (outcome : Outcome) : Option GenerateError → Prop
  | some error => outcome = .failed error
  | none => ∃ files, outcome = .done files

theorem Outcome.answers_ofExcept (answer : Except GenerateError (List GeneratedFile)) :
    (Outcome.ofExcept answer).Answers (errorOf answer) := by
  cases answer with
  | error error => rfl
  | ok files => exact ⟨files, rfl⟩

section Backends

variable {schema : Schema} (resolved : ∀ field ∈ schema.allFields, field.ResolvedIn schema)
include resolved

theorem errorOf_emit_goTypes (config : GoTypes) :
    errorOf (config.emit schema) =
      if config.validate then schema.readFields.findSome? Field.defaultError? else none := by
  rw [GoTypes.emit, errorOf_bind_of_ok fun _ => rfl, GoTypes.file,
    errorOf_bind_of_ok fun _ => rfl, errorOf_mapM,
    schema.findSome?_models]
  exact fun model listed => GoTypes.errorOf_declare
    (fun field member => resolved field (Schema.mem_allFields_of_mem_models listed member)) config

theorem errorOf_emit_rustTypes (config : RustTypes) :
    errorOf (config.emit schema) =
      if config.validate then schema.readFields.findSome? Field.defaultError? else none := by
  rw [RustTypes.emit, errorOf_bind_of_ok fun _ => rfl, RustTypes.file,
    errorOf_bind_of_ok fun _ => rfl, errorOf_mapM,
    schema.findSome?_models]
  exact fun model listed => RustTypes.errorOf_declare
    (fun field member => resolved field (Schema.mem_allFields_of_mem_models listed member)) config

theorem errorOf_emit_tsTypes : errorOf (TsTypes.emit schema) = none := by
  rw [TsTypes.emit, errorOf_bind_of_ok fun _ => rfl, TsTypes.file,
    errorOf_bind_of_ok fun _ => rfl]
  exact errorOf_mapM_eq_none fun model listed => TsTypes.errorOf_declare
    fun field member => resolved field (Schema.mem_allFields_of_mem_models listed member)

theorem errorOf_emit_csClient (config : CsClient) : errorOf (config.emit schema) = none := by
  rw [CsClient.emit, errorOf_bind_of_ok fun _ => rfl, CsClient.classes,
    errorOf_bind_of_ok fun _ => rfl]
  exact errorOf_mapM_eq_none fun model listed => CsClient.errorOf_declare
    fun field member => resolved field (Schema.mem_allFields_of_mem_models listed member)

/-- The error of a target is that of the first default of another kind, if it puts defaults in. -/
theorem Target.run_answers (target : Target) :
    (target.backend.run schema).Answers
      (if target.validates then schema.readFields.findSome? Field.defaultError? else none) := by
  cases target with
  | goTypes config =>
      rw [Target.validates, ← errorOf_emit_goTypes resolved config]
      exact Outcome.answers_ofExcept _
  | rustTypes config =>
      rw [Target.validates, ← errorOf_emit_rustTypes resolved config]
      exact Outcome.answers_ofExcept _
  | tsTypes =>
      have answered := Outcome.answers_ofExcept (TsTypes.emit schema)
      rwa [errorOf_emit_tsTypes resolved] at answered
  | csClient config =>
      have answered := Outcome.answers_ofExcept (config.emit schema)
      rwa [errorOf_emit_csClient resolved config] at answered
  -- The other backends have no error of their own.
  | _ => exact ⟨_, rfl⟩

end Backends

theorem findSome?_defaultError (fields : List Field) :
    fields.findSome? Field.defaultError? =
      (fields.find? Field.isMisdefaulted).map Field.defaultError := by
  induction fields with
  | nil => rfl
  | cons field rest ih =>
      rw [List.findSome?_cons, List.find?_cons, ih]
      cases wrong : field.isMisdefaulted <;> simp [Field.defaultError?, wrong]

/-- Once the default validation has no errors, every backend in every configuration answers with
files, but for types with validation and a default of another kind than its field among the
properties of the types and then the inputs of the methods: the answer is then that the first such
default is invalid. No other error is left. -/
theorem generate_of_clean_validation {phase : ValidatePhase} (usual : phase.IsDefault)
    {schema : Schema} (clean : (phase.toPhase.run (.ofSchema schema)).1.errors = [])
    (target : Target) :
    (match if target.validates then schema.readFields.find? Field.isMisdefaulted else none with
      | some field =>
        target.backend.generate schema = .failed (.invalidDefault field.name field.kindName)
      | none => ∃ files, target.backend.generate schema = .done files) ∧
      ∀ error, target.backend.generate schema = .failed error →
        ∃ field kind, error = .invalidDefault field kind := by
  have references := ValidatePhase.errorCount_check_eq_zero clean
    (usual.mem_lints Lint.danglingReference (by simp [Lint.standard]) (by decide))
  have shapes := ValidatePhase.errorCount_check_eq_zero clean
    (usual.mem_lints Lint.fieldShape (by simp [Lint.standard]) (by decide))
  have started : target.backend.generate schema = target.backend.run schema := by
    rw [Backend.generate, Schema.checkReferences, Schema.danglingReferences_eq_nil references]
  have answered := target.run_answers (Schema.resolvedIn_of_errorCount references shapes)
  rw [← started, findSome?_defaultError] at answered
  cases validates : target.validates with
  | false =>
      rw [validates] at answered
      obtain ⟨files, done⟩ := answered
      exact ⟨⟨files, done⟩, fun error failed => by simp [done] at failed⟩
  | true =>
      rw [validates, if_pos rfl] at answered
      rw [if_pos rfl]
      cases first : schema.readFields.find? Field.isMisdefaulted with
      | none =>
          rw [first] at answered
          obtain ⟨files, done⟩ := answered
          exact ⟨⟨files, done⟩, fun error failed => by simp [done] at failed⟩
      | some field =>
          rw [first] at answered
          refine ⟨answered, fun error failed => ⟨field.name, field.kindName, ?_⟩⟩
          exact (Outcome.failed.inj (answered.symm.trans failed)).symm

/-- A type whose only field is an integer with a text for a default. -/
def agedPet : Schema :=
  { name := "kennel"
    version := "1"
    types := [("pet", {
      name := "pet"
      properties := [
        { name := "name", type := .primitive .string, defaultValue := some (.string "Rex") },
        { name := "age", type := .primitive .integer, defaultValue := some (.string "old") }] })] }

theorem generate_agedPet :
    ((ValidatePhase.standard.groupPolicy .reject).toPhase.run (.ofSchema agedPet)).1.errors = [] ∧
      (Target.goTypes { validate := true }).backend.generate agedPet =
        .failed (.invalidDefault "age" "integer") := by
  have clean : ((ValidatePhase.standard.groupPolicy .reject).toPhase.run
      (.ofSchema agedPet)).1.errors = [] := by decide +kernel
  have answered := generate_of_clean_validation (.inr ⟨.reject, rfl⟩) clean
    (.goTypes { validate := true })
  exact ⟨clean, answered.1⟩

end RpcSchema
