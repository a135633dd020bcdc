import RpcSchema.Proofs.Generation.Validated

/-!
# Accepted schemas

A schema is accepted when a pipeline that starts with the default validation runs to its end. The
lints then promise what generators and generated code rely on: references resolve, arrays declare
their items, and no owner has two fields of one name.
-/

namespace RpcSchema

/-- A schema that a pipeline with the default validation lets pass, under either policy for groups
and whatever phases come behind. -/
def Schema.Accepted (schema : Schema) : Prop :=
  ∃ (pipeline : Pipeline) (context : Context),
    pipeline.validate.IsDefault ∧ pipeline.run schema = .ok context

theorem nodup_of_surplus_eq_zero {names : List String} (none : surplus names = 0) :
    names.Nodup := by
  rw [surplus, Finset.sum_eq_zero_iff] at none
  rw [List.nodup_iff_count_le_one]
  intro name
  by_cases member : name ∈ names
  · have once := none name (List.mem_toFinset.mpr member)
    omega
  · rw [List.count_eq_zero_of_not_mem member]
    exact Nat.zero_le 1

/-- Items that differ in one thing differ in each other thing that this can be told from. -/
theorem nodup_map_of_nodup_map {α β γ : Type} {first : α → β} {other : α → γ} {items : List α}
    (distinct : (items.map first).Nodup)
    (told : ∀ item another, other item = other another → first item = first another) :
    (items.map other).Nodup := by
  refine List.pairwise_map.mpr ((List.pairwise_map.mp distinct).imp ?_)
  intro item another differ same
  exact differ (told item another same)

/-- What is found by its name in a list of distinct names. -/
theorem find?_of_nodup {α : Type} {name : α → String} {list : List α}
    (distinct : (list.map name).Nodup) {item : α} (member : item ∈ list) :
    (list.find? fun other => name other == name item) = some item := by
  cases found : list.find? fun other => name other == name item with
  | none => simpa using List.find?_eq_none.mp found item member
  | some other =>
      have sameName : name other = name item := by simpa using List.find?_some found
      have listed := List.mem_of_find?_eq_some found
      rw [List.inj_on_of_nodup_map distinct listed member sameName]

/-- Validation without errors lets a schema pass. -/
theorem ValidatePhase.run_of_clean (phase : ValidatePhase) {schema : Schema}
    (clean : (phase.toPhase.run (.ofSchema schema)).1.errors = []) :
    Pipeline.run ⟨phase, []⟩ schema = .ok (phase.toPhase.run (.ofSchema schema)).1 := by
  have passes := (phase.run_eq_none_iff (.ofSchema schema)).mpr (List.length_eq_zero_iff.mpr clean)
  rw [Pipeline.run, runPhases]
  split
  · next reason ran => simp [ran] at passes
  · next context ran => rw [ran, runPhases]

namespace Schema.Accepted

variable {schema : Schema}

theorem exists_clean (accepted : schema.Accepted) :
    ∃ phase : ValidatePhase, phase.IsDefault ∧
      (phase.toPhase.run (.ofSchema schema)).1.errors = [] := by
  obtain ⟨pipeline, context, usual, passed⟩ := accepted
  refine ⟨pipeline.validate, usual, ?_⟩
  rw [← List.length_eq_zero_iff, ← ValidatePhase.run_eq_none_iff]
  rw [Pipeline.run, runPhases] at passed
  -- A phase that gives a reason is the last one, and the run has no context.
  split at passed
  · cases passed
  · next ran => rw [ran]

theorem of_clean {phase : ValidatePhase} (usual : phase.IsDefault)
    (clean : (phase.toPhase.run (.ofSchema schema)).1.errors = []) : schema.Accepted :=
  ⟨⟨phase, []⟩, _, usual, phase.run_of_clean clean⟩

/-- A lint that every default validation runs has no errors. -/
theorem errorCount_check (accepted : schema.Accepted) (lint : Lint)
    (standard : lint ∈ Lint.standard) (other : lint.name ≠ Lint.unknownGroupName) :
    errorCount (lint.check schema) = 0 := by
  obtain ⟨phase, usual, clean⟩ := accepted.exists_clean
  exact ValidatePhase.errorCount_check_eq_zero clean (usual.mem_lints lint standard other)

theorem resolvedIn (accepted : schema.Accepted) :
    ∀ field ∈ schema.allFields, field.ResolvedIn schema :=
  resolvedIn_of_errorCount
    (accepted.errorCount_check .danglingReference (by simp [Lint.standard]) (by decide))
    (accepted.errorCount_check .fieldShape (by simp [Lint.standard]) (by decide))

/-- All references resolve, so that backends start. -/
theorem generate_eq (accepted : schema.Accepted) (backend : Backend) :
    backend.generate schema = backend.run schema := by
  have resolves := danglingReferences_eq_nil
    (accepted.errorCount_check .danglingReference (by simp [Lint.standard]) (by decide))
  rw [Backend.generate, checkReferences, resolves]

theorem method_names_nodup (accepted : schema.Accepted) :
    (schema.methods.map Method.name).Nodup := by
  have none := accepted.errorCount_check .duplicateMethod (by simp [Lint.standard]) (by decide)
  rw [errorCount_duplicateMethod, Schema.surplusMethods] at none
  exact nodup_of_surplus_eq_zero none

theorem names_nodup (accepted : schema.Accepted) {fields : List Field}
    (owned : fields ∈ schema.owners) : (fields.map Field.name).Nodup := by
  have none := accepted.errorCount_check .duplicateProperty (by simp [Lint.standard]) (by decide)
  rw [errorCount_duplicateProperty, surplusFields,
    List.sum_eq_zero_iff_forall_eq_nat] at none
  exact nodup_of_surplus_eq_zero (none _ (List.mem_map_of_mem owned))

theorem property_names_nodup (accepted : schema.Accepted) {entry : String × TypeDecl}
    (declared : entry ∈ schema.types) : (entry.2.properties.map Field.name).Nodup :=
  accepted.names_nodup (List.mem_append_left _ (List.mem_map_of_mem declared))

theorem output_names_nodup (accepted : schema.Accepted) {method : Method}
    (declared : method ∈ schema.methods) : (method.outputs.map Field.name).Nodup :=
  accepted.names_nodup
    (List.mem_append_right _ (List.mem_flatMap.mpr ⟨method, declared, by simp⟩))

end Schema.Accepted

end RpcSchema
